import QueryComposer.Proofs.Change.Columns
import QueryComposer.Proofs.Change.Joins

set_option autoImplicit false

/-!
The suggestions that a join stores. A change of one of its tables takes them away, and only an
answer to a request about its present tables brings new ones; so whenever there are some, they are
those of one answer about these tables, less what was not sure enough then, the surest first.
Equally sure ones are in the order of the answer; of two zeros, though, the one without a sign
counts as surer.
-/

namespace QueryComposer

open QueryComposer.Number

namespace Number.Binary64

/-- The numbers are equal by value, as both zeros are. -/
def sameValue (left right : Binary64) : Bool :=
  left.le right && right.le left

/-- Neither number is before the other one in the order that puts negative zero before zero. -/
def sameRank (left right : Binary64) : Bool :=
  left.totalLe right && right.totalLe left

theorem le_of_place_le {left right : Binary64} (leftFinite : left.isFinite = true)
    (rightFinite : right.isFinite = true) (below : left.place ≤ right.place) :
    left.le right = true := by
  obtain ⟨leftUnits, leftValue⟩ := exists_units leftFinite
  obtain ⟨rightUnits, rightValue⟩ := exists_units rightFinite
  have reversed : left.le right = !right.lt left := by
    cases left with
    | nan => contradiction
    | infinite negative => contradiction
    | finite leftSign leftMantissa leftExponent leftCanonical =>
      cases right with
      | nan => contradiction
      | infinite negative => contradiction
      | finite rightSign rightMantissa rightExponent rightCanonical => rfl
  rw [place, place, leftValue, rightValue, Option.getD_some, Option.getD_some] at below
  rw [reversed, lt_eq_units rightValue leftValue, Bool.not_eq_true', decide_eq_false_iff_not]
  split at below <;> split at below <;> omega

theorem sameRank_eq_place {left right : Binary64} (leftFinite : left.isFinite = true)
    (rightFinite : right.isFinite = true) :
    left.sameRank right = decide (left.place = right.place) := by
  rw [sameRank, totalLe_eq_place leftFinite rightFinite, totalLe_eq_place rightFinite leftFinite,
    Bool.eq_iff_iff]
  simp only [Bool.and_eq_true, decide_eq_true_eq]
  omega

end Number.Binary64

/-! ### Ranked lists -/

/-- A stable sort leaves items in their order of which none has to stand before another one. -/
theorem filter_mergeSort {α : Type} {le : α → α → Bool}
    (trans : ∀ first second third, le first second → le second third → le first third)
    (total : ∀ first second, le first second || le second first) {chosen : α → Bool}
    {items : List α}
    (tied : ∀ first ∈ items, ∀ second ∈ items, chosen first = true → chosen second = true →
      le first second = true) :
    (items.mergeSort le).filter chosen = items.filter chosen := by
  have ordered : (items.filter chosen).Pairwise (fun first second => le first second = true) := by
    refine List.pairwise_of_forall_mem_list (fun first firstMember second secondMember => ?_)
    obtain ⟨firstListed, firstChosen⟩ := List.mem_filter.mp firstMember
    obtain ⟨secondListed, secondChosen⟩ := List.mem_filter.mp secondMember
    exact tied first firstListed second secondListed firstChosen secondChosen
  have within : (items.filter chosen).Sublist (items.mergeSort le) :=
    List.sublist_mergeSort trans total ordered List.filter_sublist
  have filtered := within.filter chosen
  rw [List.filter_filter] at filtered
  simp only [Bool.and_self] at filtered
  exact (filtered.eq_of_length ((List.mergeSort_perm items le).filter chosen).length_eq.symm).symm

namespace RelationshipSuggestion

/-- The stored suggestions are the offered ones that are sure enough, each once, with falling
confidence, and those that are tied with each other are in the order in which they were offered. -/
structure RankedBy (tied : Binary64 → Binary64 → Bool) (minConfidence : Binary64)
    (offered stored : List RelationshipSuggestion) : Prop where
  kept : stored.Perm (offered.filter (passes minConfidence))
  falling : stored.Pairwise (fun earlier later => later.confidence.le earlier.confidence = true)
  ties : ∀ suggestion ∈ stored,
    stored.filter (fun other => tied other.confidence suggestion.confidence) =
      (offered.filter (passes minConfidence)).filter
        (fun other => tied other.confidence suggestion.confidence)

theorem rankedBy_ranked (minConfidence : Binary64) (offered : List RelationshipSuggestion) :
    RankedBy Binary64.sameRank minConfidence offered (ranked minConfidence offered) := by
  have kept : (ranked minConfidence offered).Perm (offered.filter (passes minConfidence)) :=
    List.mergeSort_perm _ _
  have finite (suggestion : RelationshipSuggestion)
      (member : suggestion ∈ offered.filter (passes minConfidence)) :
      suggestion.confidence.isFinite = true :=
    isFinite_of_passes (List.mem_filter.mp member).2
  have trans (first second third : RelationshipSuggestion)
      (above : decide (second.confidence.place ≤ first.confidence.place) = true)
      (below : decide (third.confidence.place ≤ second.confidence.place) = true) :
      decide (third.confidence.place ≤ first.confidence.place) = true := by
    simp only [decide_eq_true_eq] at above below ⊢
    omega
  have total (first second : RelationshipSuggestion) :
      (decide (second.confidence.place ≤ first.confidence.place) ||
        decide (first.confidence.place ≤ second.confidence.place)) = true := by
    simp only [Bool.or_eq_true, decide_eq_true_eq]
    omega
  refine ⟨kept, ?_, fun suggestion member => ?_⟩
  · have ordered : (ranked minConfidence offered).Pairwise (fun earlier later =>
        decide (later.confidence.place ≤ earlier.confidence.place) = true) := by
      rw [ranked_eq_places]
      exact List.pairwise_mergeSort trans total _
    refine ordered.imp_of_mem (fun {earlier later} before behind below => ?_)
    exact Binary64.le_of_place_le (finite later (kept.mem_iff.mp behind))
      (finite earlier (kept.mem_iff.mp before)) (of_decide_eq_true below)
  · have sure := finite suggestion (kept.mem_iff.mp member)
    rw [ranked_eq_places]
    refine filter_mergeSort trans total (fun first firstListed second secondListed here there => ?_)
    rw [Binary64.sameRank_eq_place (finite first firstListed) sure, decide_eq_true_eq] at here
    rw [Binary64.sameRank_eq_place (finite second secondListed) sure, decide_eq_true_eq] at there
    exact decide_eq_true (by rw [here, there])

end RelationshipSuggestion

/-! ### One join -/

namespace Join

variable {join changed : Join}

/-- The stored suggestions come from one of the changes, an answer about this join and the tables
that it has now. -/
def StoresAnswer (tied : Binary64 → Binary64 → Bool) (changes : List QueryChange) (join : Join) :
    Prop :=
  ∃ earlier request offered settings later,
    changes = earlier ++ .applySuggestions request (.ok offered) settings :: later ∧
    request.joinId = join.id ∧ join.leftTable = some request.leftTable ∧
    join.rightTable = some request.rightTable ∧
    RelationshipSuggestion.RankedBy tied settings.minConfidence offered join.suggestions

/-- A table that is chosen is the one there was, or takes the suggestions away. -/
theorem withTable_eq_or_nil (join : Join) (side : JoinSide) (table : TableId) :
    join.withTable side table = join ∨ (join.withTable side table).suggestions = [] := by
  unfold withTable
  split
  · exact Or.inl rfl
  · cases side <;> exact Or.inr rfl

theorem withTables_eq_or_nil (join : Join) (left right : TableId) :
    (join.withTable .left left).withTable .right right = join ∨
      ((join.withTable .left left).withTable .right right).suggestions = [] := by
  rcases (join.withTable .left left).withTable_eq_or_nil .right right with same | nothing
  · rw [same]
    exact join.withTable_eq_or_nil .left left
  · exact Or.inr nothing

theorem suggestions_withSuggestions (join : Join) (autoApply : Bool)
    (ranked : List RelationshipSuggestion) :
    (join.withSuggestions autoApply ranked).2.suggestions = ranked := by
  by_cases takes : autoApply = true ∧ join.leftColumn = none ∧ join.rightColumn = none
  · cases ranked with
    | nil => rfl
    | cons top others => rw [withSuggestions_fills others takes]
  · rw [withSuggestions_keeps ranked takes]

theorem id_mergeAnswer (join : Join) (request : SuggestionRequest)
    (answer : Except Error (List RelationshipSuggestion)) (settings : SuggestionSettings) :
    (join.mergeAnswer request answer settings).2.id = join.id := by
  by_cases same : join.endpoints? = some (request.leftTable, request.rightTable)
  · by_cases takes : join.TakesColumns answer settings
    · obtain ⟨_, _, _, _, made⟩ := (mergeAnswer_took answer settings same).fillsColumns takes
      rw [made]
    · rw [(mergeAnswer_took answer settings same).keepsColumns takes]
  · rw [mergeAnswer_stale answer settings same]

/-- An answer that leaves suggestions in a join is the one they come from, or came too late. -/
theorem mergeAnswer_stores (request : SuggestionRequest)
    (answer : Except Error (List RelationshipSuggestion)) (settings : SuggestionSettings)
    (present : (join.mergeAnswer request answer settings).2.suggestions ≠ []) :
    (join.mergeAnswer request answer settings).2 = join ∨
    ∃ offered, answer = .ok offered ∧
      join.endpoints? = some (request.leftTable, request.rightTable) ∧
      (join.mergeAnswer request answer settings).2.suggestions =
        RelationshipSuggestion.ranked settings.minConfidence offered := by
  by_cases same : join.endpoints? = some (request.leftTable, request.rightTable)
  · unfold mergeAnswer at present ⊢
    rw [if_neg (not_not_intro same)] at present ⊢
    cases answer with
    | error cause => exact absurd rfl present
    | ok offered => exact Or.inr ⟨offered, rfl, same, join.suggestions_withSuggestions _ _⟩
  · rw [mergeAnswer_stale answer settings same]
    exact Or.inl rfl

namespace StoresAnswer

variable {tied : Binary64 → Binary64 → Bool} {changes : List QueryChange}

theorem later (stores : join.StoresAnswer tied changes) (change : QueryChange) :
    join.StoresAnswer tied (changes ++ [change]) := by
  obtain ⟨earlier, request, offered, settings, later, rfl, rest⟩ := stores
  exact ⟨earlier, request, offered, settings, later ++ [change],
    by rw [List.append_assoc, List.cons_append], rest⟩

theorem keepsTables (stores : join.StoresAnswer tied changes) (kept : join.KeepsTables changed) :
    changed.StoresAnswer tied changes := by
  obtain ⟨earlier, request, offered, settings, later, whole, named, left, right, ranked⟩ := stores
  refine ⟨earlier, request, offered, settings, later, whole, named.trans kept.id.symm,
    (kept.tables .left).trans left, (kept.tables .right).trans right, ?_⟩
  rwa [kept.suggestions]

end StoresAnswer

/-- What a change makes of a join keeps its suggestions accounted for. -/
theorem Revised.storesAnswer {earlier : List QueryChange} {change : QueryChange}
    (stores : join.suggestions ≠ [] → join.StoresAnswer Binary64.sameRank earlier)
    (made : Revised change join changed) (present : changed.suggestions ≠ []) :
    changed.StoresAnswer Binary64.sameRank (earlier ++ [change]) := by
  cases made with
  | keepsTables kept =>
    rw [kept.suggestions] at present
    exact ((stores present).keepsTables kept).later change
  | @oneTable side table apart =>
    rcases join.withTable_eq_or_nil side table with same | nothing
    · rw [same] at present ⊢
      exact (stores present).later change
    · exact absurd nothing present
  | @bothTables left right apart =>
    rcases join.withTables_eq_or_nil left right with same | nothing
    · rw [same] at present ⊢
      exact (stores present).later change
    · exact absurd nothing present
  | @answered request answer settings asked named =>
    rcases mergeAnswer_stores request answer settings present with
      same | ⟨offered, rfl, current, ranked⟩
    · rw [same] at present ⊢
      exact (stores present).later change
    · obtain ⟨left, right⟩ := join.tables_mergeAnswer request (.ok offered) settings
      obtain ⟨leftChosen, rightChosen⟩ := endpoints?_eq_some current
      refine ⟨earlier, request, offered, settings, [], by rw [asked],
        named.symm.trans (join.id_mergeAnswer request _ settings).symm, left.trans leftChosen,
        right.trans rightChosen, ?_⟩
      rw [ranked]
      exact RelationshipSuggestion.rankedBy_ranked settings.minConfidence offered

end Join

/-! ### Runs -/

namespace Query

/-- After any changes from the empty query that restore no text, the suggestions of a join, if there
are any, are those of one answer about the tables that the join has, less what was not sure enough
for the settings of the time, ranked by their confidence. -/
theorem run_suggestions_stored (changes : List QueryChange)
    (noText : ∀ text, .restore text ∉ changes) :
    ∀ join ∈ (run {} changes).joins, join.suggestions ≠ [] →
      join.StoresAnswer Binary64.sameRank changes :=
  forall_joins_run
    (fun changes join =>
      join.suggestions ≠ [] → join.StoresAnswer Binary64.sameRank changes)
    (fun _ _ present => absurd rfl present)
    (fun stores made => made.storesAnswer stores) noText

/-- Both zeros, the one with a sign first. -/
def signedZerosOffered : List RelationshipSuggestion :=
  [{ leftColumn := "a", rightColumn := "b", confidence := .zero true },
    { leftColumn := "c", rightColumn := "d", confidence := .zero false }]

/-- An answer with both zeros is taken in but not applied. -/
def signedZeros : List QueryChange :=
  [.addTable (.plain 1 "users"), .addTable (.plain 2 "orders"), .addJoin (.uniform 1),
    .setJoinTables (.uniform 1) (.uniform 1) (.uniform 2),
    .applySuggestions
      { joinId := .uniform 1, leftTable := .uniform 1, rightTable := .uniform 2, source := "shop"
        leftName := "users", rightName := "orders" }
      (.ok signedZerosOffered) { autoApply := false }]

/-- The join after that, with the zeros the other way round. -/
def signedZerosJoin : Join :=
  { id := .uniform 1, leftTable := some (.uniform 1), rightTable := some (.uniform 2)
    suggestions := signedZerosOffered.reverse }

theorem ranked_signedZerosOffered :
    RelationshipSuggestion.ranked (.zero false) signedZerosOffered =
      signedZerosOffered.reverse := by
  have passing : signedZerosOffered.filter (RelationshipSuggestion.passes (.zero false)) =
      signedZerosOffered := by
    decide +kernel
  have below : Binary64.totalLe (.zero false) (.zero true) = false := by decide +kernel
  rw [RelationshipSuggestion.ranked, passing, signedZerosOffered]
  simp [List.mergeSort, below]

theorem mem_joins_signedZeros : signedZerosJoin ∈ (run {} signedZeros).joins := by
  have merged : (run {} signedZeros).joins =
      [({ signedZerosJoin with suggestions := [] }.withSuggestions false
        (RelationshipSuggestion.ranked (.zero false) signedZerosOffered)).2] :=
    rfl
  rw [merged, ranked_signedZerosOffered]
  exact List.mem_cons_self

theorem restore_not_mem_signedZeros (text : String) : .restore text ∉ signedZeros := by
  intro member
  simp [signedZeros] at member

theorem signedZeros_stored :
    (∀ text, .restore text ∉ signedZeros) ∧ signedZerosJoin ∈ (run {} signedZeros).joins ∧
    signedZerosJoin.suggestions ≠ [] ∧
    signedZerosJoin.StoresAnswer Binary64.sameRank signedZeros :=
  have present : signedZerosJoin.suggestions ≠ [] := List.cons_ne_nil _ _
  ⟨restore_not_mem_signedZeros, mem_joins_signedZeros, present,
    run_suggestions_stored signedZeros restore_not_mem_signedZeros signedZerosJoin
      mem_joins_signedZeros present⟩

/-- With ties by value the suggestions are not always in the order of the answer: both zeros are one
value, and the answer has them the other way round. -/
theorem suggestions_not_stored_by_value :
    ¬ ∀ changes : List QueryChange, (∀ text, .restore text ∉ changes) →
      ∀ join ∈ (run {} changes).joins, join.suggestions ≠ [] →
        join.StoresAnswer Binary64.sameValue changes := by
  intro stored
  obtain ⟨earlier, request, offered, settings, later, whole, _, _, _, ranked⟩ :=
    stored signedZeros restore_not_mem_signedZeros signedZerosJoin mem_joins_signedZeros
      (List.cons_ne_nil _ _)
  have member : .applySuggestions request (.ok offered) settings ∈ signedZeros := by
    rw [whole]
    exact List.mem_append_right _ List.mem_cons_self
  simp only [signedZeros, List.mem_cons, List.not_mem_nil, reduceCtorEq, or_false, false_or,
    QueryChange.applySuggestions.injEq, Except.ok.injEq] at member
  obtain ⟨_, rfl, rfl⟩ := member
  have tied := ranked.ties _ List.mem_cons_self
  revert tied
  decide +kernel

end Query

end QueryComposer
