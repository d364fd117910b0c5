import QueryComposer.Proofs.Parameter.Extraction
import QueryComposer.Template.Basic

set_option autoImplicit false

/-!
Templates that are revised again and again. What was decided about a parameter by hand stands as
long as every text has its name, and is forgotten with the first text that does not.
-/

namespace QueryComposer

namespace Parameter

/-! ### What stands -/

/-- What was decided about the earlier parameter stands. -/
structure Retains (earlier parameter : Parameter) : Prop where
  required : parameter.required = earlier.required
  defaultValue : parameter.defaultValue = earlier.defaultValue
  typeLocked : parameter.typeLocked = earlier.typeLocked
  type : earlier.typeLocked = true → parameter.type = earlier.type

theorem Retains.refl (parameter : Parameter) : parameter.Retains parameter :=
  ⟨rfl, rfl, rfl, fun _ => rfl⟩

theorem Retains.trans {first second third : Parameter} (one : first.Retains second)
    (other : second.Retains third) : first.Retains third := by
  refine ⟨other.required.trans one.required, other.defaultValue.trans one.defaultValue,
    other.typeLocked.trans one.typeLocked, ?_⟩
  intro locked
  rw [other.type (one.typeLocked.trans locked), one.type locked]

theorem retains_inherit (earlier : Parameter) {fresh : Parameter} (undecided : fresh.Undecided) :
    earlier.Retains (inherit earlier fresh) := by
  unfold inherit
  cases locked : earlier.typeLocked with
  | true => exact ⟨rfl, rfl, locked.symm, fun _ => rfl⟩
  | false =>
    refine ⟨rfl, rfl, undecided.typeLocked.trans locked.symm, ?_⟩
    intro chosen
    rw [locked] at chosen
    contradiction

theorem inherit_of_undecided {earlier fresh : Parameter} (nothing : earlier.Undecided)
    (undecided : fresh.Undecided) : inherit earlier fresh = fresh := by
  obtain ⟨required, defaultValue, typeLocked⟩ := nothing
  obtain ⟨freshRequired, freshDefault, freshLocked⟩ := undecided
  cases fresh
  simp_all [inherit]

section Reextract

variable {sql : String} {previous : List Parameter} {fresh : Parameter}

theorem find?_reextract_of_mem {parameter : Parameter}
    (listed : parameter ∈ reextract sql previous) :
    find? (reextract sql previous) parameter.name = some parameter := by
  apply find?_of_mem _ listed
  rw [names_reextract]
  exact names_extract_nodup sql

theorem find?_reextract_new (member : fresh ∈ extract sql)
    (unknown : find? previous fresh.name = none) :
    find? (reextract sql previous) fresh.name = some fresh := by
  apply find?_reextract_of_mem
  exact List.mem_map.mpr ⟨fresh, member, by simp only [unknown]⟩

theorem find?_reextract_known (member : fresh ∈ extract sql) {earlier : Parameter}
    (known : find? previous fresh.name = some earlier) :
    find? (reextract sql previous) fresh.name = some (inherit earlier fresh) := by
  rw [← (follows_inherit fresh earlier).name]
  apply find?_reextract_of_mem
  exact List.mem_map.mpr ⟨fresh, member, by simp only [known]⟩

theorem find?_reextract_eq_none_iff {name : String} :
    find? (reextract sql previous) name = none ↔ name ∉ (extract sql).map Parameter.name := by
  rw [find?_eq_none_iff, names_reextract]

end Reextract

end Parameter

namespace Template

open QueryComposer.Parameter

/-- What is done with a template in the course of time: anything is decided about the parameter of a
name, which goes on under that name, or the template gets another text. -/
inductive Revision
  | override (name : String) (change : Parameter → Parameter)
      (keepsName : ∀ parameter, (change parameter).name = parameter.name)
  | text (sql : String)

/-- The template after a revision. -/
def revise (template : Template) : Revision → Template
  | .override name change _ =>
    { template with
      parameters :=
        modifyFirst (fun parameter => parameter.name = name) change template.parameters }
  | .text sql => template.setSql sql

/-- The template after several revisions. -/
def reviseEach (template : Template) (history : List Revision) : Template :=
  history.foldl revise template

/-- The parameter of a name. -/
def parameter? (template : Template) (name : String) : Option Parameter :=
  find? template.parameters name

namespace Revision

/-- The revision decides about the parameter of the name. -/
def IsAbout (name : String) : Revision → Prop
  | .override other _ _ => other = name
  | .text _ => False

/-- The revision brings a text without the name. -/
def Drops (name : String) : Revision → Prop
  | .override .. => False
  | .text sql => name ∉ (extract sql).map Parameter.name

instance (name : String) (revision : Revision) : Decidable (revision.IsAbout name) :=
  match revision with
  | .override other _ _ => inferInstanceAs (Decidable (other = name))
  | .text _ => .isFalse id

instance (name : String) (revision : Revision) : Decidable (revision.Drops name) :=
  match revision with
  | .override .. => .isFalse id
  | .text sql => inferInstanceAs (Decidable (name ∉ (extract sql).map Parameter.name))

end Revision

/-! ### One revision -/

variable {template : Template} {name : String}

theorem parameter?_override {earlier : Parameter} (found : template.parameter? name = some earlier)
    {change : Parameter → Parameter}
    (keepsName : ∀ parameter, (change parameter).name = parameter.name) :
    (template.revise (.override name change keepsName)).parameter? name =
      some (change earlier) := by
  have kept : ∀ parameter : Parameter, decide (parameter.name = name) = true →
      decide ((change parameter).name = name) = true := by
    intro parameter named
    rwa [keepsName]
  exact (find?_modifyFirst kept template.parameters).trans (congrArg (Option.map change) found)

theorem parameter?_override_of_ne {other : String} (different : other ≠ name)
    {change : Parameter → Parameter}
    (keepsName : ∀ parameter, (change parameter).name = parameter.name) :
    (template.revise (.override other change keepsName)).parameter? name =
      template.parameter? name := by
  apply find?_modifyFirst_of_other
  intro parameter named
  rw [decide_eq_true_eq] at named
  rw [keepsName, named]
  exact ⟨decide_eq_false different, decide_eq_false different⟩

theorem parameter?_of_drops {gone : Revision} (drops : gone.Drops name) :
    (template.revise gone).parameter? name = none := by
  cases gone with
  | override => exact drops.elim
  | text sql => exact find?_reextract_eq_none_iff.mpr drops

/-- What was decided about a parameter stands after a revision that neither decides about it nor
drops its name. -/
theorem retained_revise {earlier : Parameter} (found : template.parameter? name = some earlier)
    {revision : Revision} (spared : ¬ revision.IsAbout name) (kept : ¬ revision.Drops name) :
    ∃ parameter, (template.revise revision).parameter? name = some parameter ∧
      earlier.Retains parameter := by
  cases revision with
  | override other change keepsName =>
    rw [parameter?_override_of_ne spared keepsName]
    exact ⟨earlier, found, .refl earlier⟩
  | text sql =>
    obtain ⟨fresh, member, rfl⟩ := List.mem_map.mp (not_not.mp kept)
    exact ⟨_, find?_reextract_known member found,
      retains_inherit earlier (undecided_of_mem_extract member)⟩

/-- Nothing was decided about the parameter of the name, if there is one. -/
def IsOpen (template : Template) (name : String) : Prop :=
  ∀ parameter, template.parameter? name = some parameter → parameter.Undecided

theorem isOpen_of_missing (missing : template.parameter? name = none) : template.IsOpen name := by
  intro parameter found
  rw [missing] at found
  contradiction

theorem IsOpen.text {sql : String} {fresh : Parameter} (nothing : template.IsOpen fresh.name)
    (member : fresh ∈ extract sql) :
    (template.revise (.text sql)).parameter? fresh.name = some fresh := by
  cases found : template.parameter? fresh.name with
  | none => exact find?_reextract_new member found
  | some earlier =>
    have same := inherit_of_undecided (nothing earlier found) (undecided_of_mem_extract member)
    exact (find?_reextract_known member found).trans (congrArg some same)

theorem IsOpen.revise (nothing : template.IsOpen name) {revision : Revision}
    (spared : ¬ revision.IsAbout name) : (template.revise revision).IsOpen name := by
  intro parameter found
  cases revision with
  | override other change keepsName =>
    rw [parameter?_override_of_ne spared keepsName] at found
    exact nothing parameter found
  | text sql =>
    by_cases dropped : (Revision.text sql).Drops name
    · exact isOpen_of_missing (parameter?_of_drops dropped) parameter found
    · obtain ⟨fresh, member, rfl⟩ := List.mem_map.mp (not_not.mp dropped)
      rw [nothing.text member] at found
      cases found
      exact undecided_of_mem_extract member

/-! ### Histories -/

theorem setSql_setSql (template : Template) (sql : String) :
    (template.setSql sql).setSql sql = template.setSql sql :=
  congrArg (Template.mk sql) ((reextract_eq_iff sql _).mpr (allFollow_reextract sql _))

theorem reviseEach_append (template : Template) (before after : List Revision) :
    template.reviseEach (before ++ after) = (template.reviseEach before).reviseEach after :=
  List.foldl_append

theorem retained_reviseEach {earlier : Parameter}
    (found : template.parameter? name = some earlier) {history : List Revision}
    (spared : ∀ revision ∈ history, ¬ revision.IsAbout name ∧ ¬ revision.Drops name) :
    ∃ parameter, (template.reviseEach history).parameter? name = some parameter ∧
      earlier.Retains parameter := by
  induction history generalizing template earlier with
  | nil => exact ⟨earlier, found, .refl earlier⟩
  | cons revision history inner =>
    obtain ⟨untouched, kept⟩ := spared revision List.mem_cons_self
    obtain ⟨parameter, next, retains⟩ := retained_revise found untouched kept
    obtain ⟨last, final, further⟩ := inner next
      (fun later member => spared later (List.mem_cons_of_mem revision member))
    exact ⟨last, final, retains.trans further⟩

theorem IsOpen.reviseEach (nothing : template.IsOpen name) {history : List Revision}
    (spared : ∀ revision ∈ history, ¬ revision.IsAbout name) :
    (template.reviseEach history).IsOpen name := by
  induction history generalizing template with
  | nil => exact nothing
  | cons revision history inner =>
    exact inner (nothing.revise (spared revision List.mem_cons_self))
      (fun later member => spared later (List.mem_cons_of_mem revision member))

theorem retained_after_override {before later : List Revision} {earlier : Parameter}
    (found : (template.reviseEach before).parameter? name = some earlier)
    {change : Parameter → Parameter}
    (keepsName : ∀ parameter, (change parameter).name = parameter.name)
    (spared : ∀ revision ∈ later, ¬ revision.IsAbout name ∧ ¬ revision.Drops name) :
    ∃ parameter,
      (template.reviseEach (before ++ .override name change keepsName :: later)).parameter? name =
        some parameter ∧ (change earlier).Retains parameter := by
  rw [reviseEach_append]
  exact retained_reviseEach (parameter?_override found keepsName) spared

theorem undecided_after_missing {before later : List Revision} {sql : String} {fresh : Parameter}
    (missing : (template.reviseEach before).parameter? fresh.name = none)
    (spared : ∀ revision ∈ later, ¬ revision.IsAbout fresh.name) (member : fresh ∈ extract sql) :
    (template.reviseEach (before ++ later ++ [.text sql])).parameter? fresh.name = some fresh ∧
      fresh.Undecided := by
  rw [reviseEach_append, reviseEach_append]
  exact ⟨((isOpen_of_missing missing).reviseEach spared).text member,
    undecided_of_mem_extract member⟩

/-- However a template is revised, with a text at last, its parameters are those of that text, in
its order and of its kinds, and a type that is not locked is the one that the text suggests. What a
last override decided about a parameter stands if every text since then has the name, and so does
what the template had from the start. A name that is missing, as it is after a text without it,
comes back as the last text has it, with nothing decided about it if no override follows. The same
text once more changes nothing. -/
theorem reviseEach_keeps_decisions (template : Template) (history : List Revision)
    (sql : String) :
    let last := template.reviseEach (history ++ [.text sql])
    last.sql = sql ∧
    last.parameters.map Parameter.name = (extract sql).map Parameter.name ∧
    List.Forall₂ (fun fresh parameter => parameter.kind = fresh.kind ∧
      (parameter.typeLocked = false → parameter.type = fresh.type))
      (extract sql) last.parameters ∧
    (∀ before name change keepsName later earlier,
      history = before ++ .override name change keepsName :: later →
      (template.reviseEach before).parameter? name = some earlier →
      (∀ revision ∈ later ++ [.text sql], ¬ revision.IsAbout name ∧ ¬ revision.Drops name) →
      ∃ parameter, last.parameter? name = some parameter ∧ (change earlier).Retains parameter) ∧
    (∀ name earlier, template.parameter? name = some earlier →
      (∀ revision ∈ history ++ [.text sql], ¬ revision.IsAbout name ∧ ¬ revision.Drops name) →
      ∃ parameter, last.parameter? name = some parameter ∧ earlier.Retains parameter) ∧
    (∀ before gone name, gone.Drops name →
      (template.reviseEach (before ++ [gone])).parameter? name = none) ∧
    (∀ before later name, history = before ++ later →
      (template.reviseEach before).parameter? name = none →
      (∀ revision ∈ later, ¬ revision.IsAbout name) → ∀ fresh ∈ extract sql, fresh.name = name →
        last.parameter? name = some fresh ∧ fresh.Undecided) ∧
    last.setSql sql = last := by
  intro last
  have final : last = (template.reviseEach history).setSql sql := reviseEach_append _ _ _
  have follow : AllFollow sql last.parameters := by
    rw [final]
    exact allFollow_reextract sql _
  refine ⟨?_, follow.names, follow.imp (fun _ _ follows => ⟨follows.kind, follows.type⟩),
    ?_, ?_, ?_, ?_, ?_⟩
  · rw [final]
    rfl
  · intro before name change keepsName later earlier whole found spared
    have stands := retained_after_override found keepsName spared
    simpa [last, whole] using stands
  · intro name earlier found spared
    exact retained_reviseEach found spared
  · intro before gone name drops
    rw [reviseEach_append]
    exact parameter?_of_drops drops
  · rintro before later name whole missing spared fresh member rfl
    have undecided := undecided_after_missing missing spared member
    rwa [← whole] at undecided
  · rw [final]
    exact setSql_setSql (template.reviseEach history) sql

/-! ### A name that stays and one that is away for a while -/

def codesByDay : Template := .ofSql "id = :code AND day > :since"

/-- The code becomes a number that needs no value. -/
def optionalNumber (parameter : Parameter) : Parameter :=
  (parameter.withType .number).optional (some (.int 7))

/-- Both parameters are decided about, and one of them is missing in the next text. -/
def codesHistory : List Revision :=
  [ .override "since" (fun parameter => parameter.withType .string) (fun _ => rfl),
    .override "code" optionalNumber (fun _ => rfl),
    .text "name = :code",
    .text "? < day AND name = :code" ]

theorem codesHistory_keeps_code :
    (∃ parameter, (codesByDay.reviseEach
        (codesHistory ++ [.text "day = :since AND name IN (:code)"])).parameter? "code" =
          some parameter ∧
      parameter.required = false ∧ parameter.defaultValue = some (.int 7) ∧
      parameter.typeLocked = true ∧ parameter.type = .number) ∧
    ∃ parameter, (codesByDay.reviseEach
        (codesHistory ++ [.text "day = :since AND name IN (:code)"])).parameter? "since" =
          some parameter ∧ parameter.Undecided ∧ parameter.type = .date := by
  obtain ⟨-, -, -, stands, -, missing, forgotten, -⟩ :=
    reviseEach_keeps_decisions codesByDay codesHistory "day = :since AND name IN (:code)"
  constructor
  · obtain ⟨earlier, found⟩ := Option.isSome_iff_exists.mp
      (show ((codesByDay.reviseEach (codesHistory.take 1)).parameter? "code").isSome = true by
        decide +kernel)
    obtain ⟨parameter, last, retains⟩ := stands (codesHistory.take 1) "code" optionalNumber
      (fun _ => rfl) (codesHistory.drop 2) earlier rfl found (by decide +kernel)
    exact ⟨parameter, last, retains.required, retains.defaultValue, retains.typeLocked,
      retains.type rfl⟩
  · obtain ⟨fresh, listed, suggested⟩ :
        ∃ fresh ∈ Parameter.extract "day = :since AND name IN (:code)",
          fresh.name = "since" ∧ fresh.type = .date := by
      decide +kernel
    have gone : (codesByDay.reviseEach (codesHistory.take 3)).parameter? "since" = none :=
      missing (codesHistory.take 2) (.text "name = :code") "since" (by decide +kernel)
    obtain ⟨last, undecided⟩ := forgotten (codesHistory.take 3) (codesHistory.drop 3) "since" rfl
      gone (by decide +kernel) fresh listed suggested.1
    exact ⟨fresh, last, undecided, suggested.2⟩

end Template

end QueryComposer
