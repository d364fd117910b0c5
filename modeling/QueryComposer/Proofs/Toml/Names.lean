import QueryComposer.Proofs.Json.Names

set_option autoImplicit false

/-!
In what a TOML text is read as, the names in each table are all different: a value is added only
under a name that is not taken, and a table that is there is replaced in its place.
-/

namespace QueryComposer.Toml

/-! ### Tables -/

theorem membersToJson_eq_map (members : Members) :
    membersToJson members = members.map (fun member => (member.1, member.2.toJson)) := by
  induction members with
  | nil => rfl
  | cons member members inner => rw [membersToJson, inner, List.map_cons]

theorem tablesToJson_eq_map (tables : List Members) :
    tablesToJson tables = tables.map (fun members => .object (membersToJson members)) := by
  induction tables with
  | nil => rfl
  | cons members tables inner => rw [tablesToJson, inner, List.map_cons]

/-- The names in a table and in the tables within it are all different. -/
def Members.AreDistinct (members : Members) : Prop :=
  (Json.object (membersToJson members)).DistinctNames

theorem areDistinct_iff {members : Members} :
    members.AreDistinct ↔
      (members.map Prod.fst).Nodup ∧ ∀ member ∈ members, member.2.toJson.DistinctNames := by
  rw [Members.AreDistinct, Json.distinctNames_object_iff, membersToJson_eq_map, List.map_map,
    List.forall_mem_map]
  rfl

theorem areDistinct_nil : Members.AreDistinct [] :=
  areDistinct_iff.mpr ⟨List.nodup_nil, List.forall_mem_nil _⟩

theorem distinctNames_tables_iff {tables : List Members} :
    (Entry.toJson (.tables tables)).DistinctNames ↔ ∀ members ∈ tables, members.AreDistinct := by
  rw [Entry.toJson, Json.distinctNames_array_iff, tablesToJson_eq_map]
  simp only [List.mem_reverse, List.forall_mem_map]
  rfl

variable {members : Members} {name : String} {entry : Entry}

theorem Members.AreDistinct.of_lookup (distinct : members.AreDistinct)
    (found : List.lookup name members = some entry) : entry.toJson.DistinctNames :=
  (areDistinct_iff.mp distinct).2 _ (Entries.mem_of_get? found)

theorem Members.AreDistinct.append (distinct : members.AreDistinct)
    (new : List.lookup name members = none) (within : entry.toJson.DistinctNames) :
    (members ++ [(name, entry)] : Members).AreDistinct := by
  rw [areDistinct_iff] at distinct ⊢
  rw [List.map_append, List.map_singleton, List.nodup_append_comm, List.singleton_append,
    List.nodup_cons, List.forall_mem_append, List.forall_mem_singleton]
  exact ⟨⟨Entries.get?_eq_none_iff.mp new, distinct.1⟩, distinct.2, within⟩

theorem names_replaceEntry (found : (List.lookup name members).isSome = true) (entry : Entry) :
    (replaceEntry name entry members).map Prod.fst = members.map Prod.fst := by
  induction members with
  | nil => contradiction
  | cons member members inner =>
    obtain ⟨other, old⟩ := member
    rw [replaceEntry]
    split
    · rename_i here
      rw [List.map_cons, List.map_cons, here]
    · rename_i elsewhere
      rw [List.lookup_cons, beq_false_of_ne (Ne.symm elsewhere)] at found
      rw [List.map_cons, List.map_cons, inner found]

theorem mem_replaceEntry {other : String × Entry}
    (listed : other ∈ replaceEntry name entry members) :
    other = (name, entry) ∨ other ∈ members := by
  induction members with
  | nil => exact Or.inl (List.mem_singleton.mp listed)
  | cons member members inner =>
    obtain ⟨first, old⟩ := member
    rw [replaceEntry] at listed
    split at listed
    · rcases List.mem_cons.mp listed with rfl | later
      · exact Or.inl rfl
      · exact Or.inr (List.mem_cons_of_mem _ later)
    · rcases List.mem_cons.mp listed with rfl | later
      · exact Or.inr List.mem_cons_self
      · exact (inner later).imp_right (List.mem_cons_of_mem _)

theorem Members.AreDistinct.replaceEntry {old : Entry} (distinct : members.AreDistinct)
    (found : List.lookup name members = some old) (within : entry.toJson.DistinctNames) :
    (replaceEntry name entry members).AreDistinct := by
  rw [areDistinct_iff] at distinct ⊢
  rw [names_replaceEntry (by rw [found]; rfl)]
  refine ⟨distinct.1, ?_⟩
  intro member listed
  rcases mem_replaceEntry listed with rfl | present
  · exact within
  · exact distinct.2 member present

/-! ### Edits -/

/-- An edit that leaves the names of a table all different. -/
def KeepsDistinct (edit : OpenTable → Option OpenTable) : Prop :=
  ∀ table changed, edit table = some changed → Members.AreDistinct table.2 →
    Members.AreDistinct changed.2

theorem keepsDistinct_editTable {edit : OpenTable → Option OpenTable} (keeps : KeepsDistinct edit)
    (ofKey : Bool) (path : List String) : KeepsDistinct (editTable ofKey edit path) := by
  induction path with
  | nil => exact keeps
  | cons name path inner =>
    rintro ⟨origin, members⟩ changed edited distinct
    rw [editTable] at edited
    split at edited
    · next new =>
      obtain ⟨⟨origin', within⟩, done, rfl⟩ := Option.map_eq_some_iff.mp edited
      exact distinct.append new (inner _ _ done areDistinct_nil)
    · next origin' within found =>
      split at edited
      · contradiction
      · obtain ⟨⟨origin'', changed⟩, done, rfl⟩ := Option.map_eq_some_iff.mp edited
        exact distinct.replaceEntry found (inner _ _ done (distinct.of_lookup found))
    · next last others found =>
      obtain ⟨⟨origin', changed⟩, done, rfl⟩ := Option.map_eq_some_iff.mp edited
      have tables := distinctNames_tables_iff.mp (distinct.of_lookup found)
      rw [List.forall_mem_cons] at tables
      refine distinct.replaceEntry found (distinctNames_tables_iff.mpr ?_)
      exact List.forall_mem_cons.mpr ⟨inner _ _ done tables.1, tables.2⟩
    · contradiction

theorem keepsDistinct_addValue {json : Json} (within : json.DistinctNames) (ofDottedKey : Bool)
    (name : String) : KeepsDistinct (addValue ofDottedKey name json) := by
  intro table changed added distinct
  unfold addValue at added
  split at added
  · contradiction
  · next free =>
    cases added
    simp only [Bool.or_eq_true, not_or, Bool.not_eq_true, Option.isSome_eq_false_iff,
      Option.isNone_iff_eq_none] at free
    exact distinct.append free.2 within

theorem keepsDistinct_addHeader (name : String) : KeepsDistinct (addHeader name) := by
  intro table changed added distinct
  unfold addHeader at added
  split at added
  · next new =>
    cases added
    exact distinct.append new areDistinct_nil
  · next within found =>
    cases added
    have same : (Entry.table .implied within).toJson = (Entry.table .header within).toJson := rfl
    exact distinct.replaceEntry found (same ▸ distinct.of_lookup found)
  · contradiction

theorem keepsDistinct_addArrayHeader (name : String) : KeepsDistinct (addArrayHeader name) := by
  intro table changed added distinct
  unfold addArrayHeader at added
  split at added
  · next new =>
    cases added
    refine distinct.append new (distinctNames_tables_iff.mpr ?_)
    exact List.forall_mem_singleton.mpr areDistinct_nil
  · next others found =>
    cases added
    refine distinct.replaceEntry found (distinctNames_tables_iff.mpr ?_)
    exact List.forall_mem_cons.mpr
      ⟨areDistinct_nil, distinctNames_tables_iff.mp (distinct.of_lookup found)⟩
  · contradiction

namespace Document

variable {document changed : Document}

theorem areDistinct_change {path : List String} {edit : OpenTable → Option OpenTable}
    (keeps : KeepsDistinct edit) (distinct : document.members.AreDistinct)
    (done : document.change path edit = some changed) : changed.members.AreDistinct := by
  obtain ⟨⟨origin, members⟩, edited, rfl⟩ := Option.map_eq_some_iff.mp done
  exact keepsDistinct_editTable keeps false path _ _ edited distinct

theorem areDistinct_addKey {key : List String} {json : Json}
    (distinct : document.members.AreDistinct) (within : json.DistinctNames)
    (added : document.addKey key json = some changed) : changed.members.AreDistinct := by
  unfold addKey at added
  split at added
  · contradiction
  · exact areDistinct_change
      (keepsDistinct_editTable (keepsDistinct_addValue within _ _) true _) distinct added

theorem areDistinct_openHeader {key : List String} {add : String → OpenTable → Option OpenTable}
    (keeps : ∀ name, KeepsDistinct (add name)) (distinct : document.members.AreDistinct)
    (opened : document.openHeader key add = some changed) : changed.members.AreDistinct := by
  unfold openHeader at opened
  split at opened
  · contradiction
  · obtain ⟨inner, done, rfl⟩ := Option.map_eq_some_iff.mp opened
    have kept : inner.members.AreDistinct := areDistinct_change (keeps _) distinct done
    exact kept

end Document

/-! ### Values -/

theorem distinctNames_readDecimal? {chars : List Char} {json : Json}
    (read : readDecimal? chars = some json) : json.DistinctNames := by
  have last (value : Number.Binary64)
      (given : (if value = .infinite false then none else some (Json.ofBinary64 value)) =
        some json) : json.DistinctNames := by
    split at given
    · contradiction
    · cases given
      exact Json.distinctNames_ofBinary64 value
  unfold readDecimal? at read
  generalize splitSign chars = sign at read
  obtain ⟨digits, -, further⟩ := Option.bind_eq_some_iff.mp read
  simp only [Option.bind_eq_bind, Option.bind_none, Option.bind_some] at further
  split at further
  · obtain ⟨⟨fraction, rest⟩, -, further⟩ := Option.bind_eq_some_iff.mp further
    dsimp only at further
    split at further
    · split at further
      · contradiction
      · exact last _ further
    · split at further
      · obtain ⟨power, -, given⟩ := Option.bind_eq_some_iff.mp further
        exact last _ given
      · contradiction
  · split at further
    · contradiction
    · split at further
      · obtain ⟨power, -, given⟩ := Option.bind_eq_some_iff.mp further
        exact last _ given
      · contradiction

theorem distinctNames_readWord? {chars : List Char} {json : Json}
    (read : readWord? chars = some json) : json.DistinctNames := by
  unfold readWord? at read
  split at read
  · cases read
    trivial
  · split at read
    · cases read
      trivial
    · rcases Option.or_eq_some_iff.mp read with whole | ⟨-, other⟩
      · obtain ⟨value, -, rfl⟩ := Option.map_eq_some_iff.mp whole
        trivial
      · rcases Option.or_eq_some_iff.mp other with decimal | ⟨-, named⟩
        · exact distinctNames_readDecimal? decimal
        · dsimp only [readNamed?] at named
          split at named
          · cases named
            trivial
          · contradiction

theorem distinctNames_takeWord? {chars rest : List Char} {json : Json}
    (taken : takeWord? chars = some (json, rest)) : json.DistinctNames := by
  unfold takeWord? at taken
  split at taken
  · cases taken
    exact (Json.distinctNames_object_iff _).mpr
      ⟨List.nodup_singleton _, List.forall_mem_singleton.mpr trivial⟩
  · contradiction
  · obtain ⟨found, read, same⟩ := Option.map_eq_some_iff.mp taken
    cases same
    exact distinctNames_readWord? read

mutual

theorem distinctNames_takeValue? {rounds depth : Nat} {chars rest : List Char} {json : Json}
    (taken : takeValue? rounds depth chars = some (json, rest)) : json.DistinctNames := by
  cases rounds with
  | zero => contradiction
  | succ rounds =>
    unfold takeValue? at taken
    split at taken
    · split at taken
      · contradiction
      · obtain ⟨⟨items, after⟩, inner, same⟩ := Option.map_eq_some_iff.mp taken
        cases same
        exact (Json.distinctNames_array_iff items).mpr (distinctNames_takeItems? inner)
    · split at taken
      · contradiction
      · split at taken
        · cases taken
          exact areDistinct_nil
        · obtain ⟨⟨document, after⟩, inner, same⟩ := Option.map_eq_some_iff.mp taken
          cases same
          exact areDistinct_takeMembers? areDistinct_nil inner
    · obtain ⟨⟨text, after⟩, -, same⟩ := Option.map_eq_some_iff.mp taken
      cases same
      trivial
    · obtain ⟨⟨text, after⟩, -, same⟩ := Option.map_eq_some_iff.mp taken
      cases same
      trivial
    · exact distinctNames_takeWord? taken

theorem distinctNames_takeItems? {rounds depth : Nat} {chars rest : List Char} {items : List Json}
    (taken : takeItems? rounds depth chars = some (items, rest)) :
    ∀ item ∈ items, item.DistinctNames := by
  cases rounds with
  | zero => contradiction
  | succ rounds =>
    unfold takeItems? at taken
    split at taken
    · cases taken
      exact List.forall_mem_nil _
    · obtain ⟨⟨item, after⟩, first, further⟩ := Option.bind_eq_some_iff.mp taken
      have head := distinctNames_takeValue? first
      dsimp only at further
      split at further
      · obtain ⟨⟨others, tail⟩, later, same⟩ := Option.map_eq_some_iff.mp further
        cases same
        exact List.forall_mem_cons.mpr ⟨head, distinctNames_takeItems? later⟩
      · cases further
        exact List.forall_mem_singleton.mpr head
      · contradiction

theorem areDistinct_takeMembers? {rounds depth : Nat} {document changed : Document}
    {chars rest : List Char} (distinct : document.members.AreDistinct)
    (taken : takeMembers? rounds depth document chars = some (changed, rest)) :
    changed.members.AreDistinct := by
  cases rounds with
  | zero => contradiction
  | succ rounds =>
    unfold takeMembers? at taken
    obtain ⟨⟨key, afterKey⟩, -, further⟩ := Option.bind_eq_some_iff.mp taken
    dsimp only at further
    split at further
    · obtain ⟨⟨json, after⟩, value, further⟩ := Option.bind_eq_some_iff.mp further
      obtain ⟨extended, added, further⟩ := Option.bind_eq_some_iff.mp further
      have longer := Document.areDistinct_addKey distinct (distinctNames_takeValue? value) added
      split at further
      · exact areDistinct_takeMembers? longer further
      · cases further
        exact longer
      · contradiction
    · contradiction

end

/-! ### Texts -/

theorem areDistinct_takeStatement? {document changed : Document} {chars rest : List Char}
    (distinct : document.members.AreDistinct)
    (taken : takeStatement? document chars = some (changed, rest)) :
    changed.members.AreDistinct := by
  unfold takeStatement? at taken
  split at taken
  · obtain ⟨⟨key, after⟩, -, further⟩ := Option.bind_eq_some_iff.mp taken
    dsimp only at further
    split at further
    · obtain ⟨opened, done, same⟩ := Option.map_eq_some_iff.mp further
      cases same
      exact Document.areDistinct_openHeader keepsDistinct_addArrayHeader distinct done
    · contradiction
  · obtain ⟨⟨key, after⟩, -, further⟩ := Option.bind_eq_some_iff.mp taken
    dsimp only at further
    split at further
    · obtain ⟨opened, done, same⟩ := Option.map_eq_some_iff.mp further
      cases same
      exact Document.areDistinct_openHeader keepsDistinct_addHeader distinct done
    · contradiction
  · obtain ⟨⟨key, after⟩, -, further⟩ := Option.bind_eq_some_iff.mp taken
    dsimp only at further
    split at further
    · obtain ⟨⟨json, tail⟩, value, further⟩ := Option.bind_eq_some_iff.mp further
      obtain ⟨extended, added, same⟩ := Option.map_eq_some_iff.mp further
      cases same
      exact Document.areDistinct_addKey distinct (distinctNames_takeValue? value) added
    · contradiction

theorem areDistinct_readStatements? {rounds : Nat} {document changed : Document}
    {chars : List Char} (distinct : document.members.AreDistinct)
    (read : readStatements? rounds document chars = some changed) :
    changed.members.AreDistinct := by
  induction rounds generalizing document chars with
  | zero => contradiction
  | succ rounds inner =>
    unfold readStatements? at read
    split at read
    · cases read
      exact distinct
    · obtain ⟨⟨next, after⟩, taken, further⟩ := Option.bind_eq_some_iff.mp read
      obtain ⟨rest, -, later⟩ := Option.bind_eq_some_iff.mp further
      exact inner (areDistinct_takeStatement? distinct taken) later

/-- What a text is read as. -/
theorem distinctNames_parse? {text : String} {json : Json} (read : parse? text = some json) :
    json.DistinctNames := by
  obtain ⟨document, done, rfl⟩ := Option.map_eq_some_iff.mp read
  exact areDistinct_readStatements? areDistinct_nil done

end QueryComposer.Toml
