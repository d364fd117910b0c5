import QueryComposer.FirstMatch
import QueryComposer.Template.Record
import QueryComposer.Uuid

set_option autoImplicit false

/-!
A store of templates under their identities.
-/

namespace QueryComposer

/-- Stored templates. -/
structure TemplateStore where
  records : List (Uuid × TemplateRecord) := []
deriving Repr

namespace TemplateStore

/-- Store a template under an identity, in the place of one that has the identity. -/
def create (store : TemplateStore) (id : Uuid) (record : TemplateRecord) : TemplateStore :=
  { records := store.records.filter (fun stored => stored.1 ≠ id) ++ [(id, record)] }

/-- A template by its identity. -/
def get? (store : TemplateStore) (id : Uuid) : Option TemplateRecord :=
  List.lookup id store.records

/-- Put another template in the place of one. -/
def update (store : TemplateStore) (id : Uuid) (record : TemplateRecord) :
    Except Error TemplateStore :=
  (editFirst (fun stored => stored.1 = id) (.unknownTemplate id)
    (fun _ => .ok ((), (id, record))) store.records).map (fun (_, records) => ⟨records⟩)

/-- Remove a template. -/
def delete (store : TemplateStore) (id : Uuid) : Except Error TemplateStore :=
  match takeFirst? (fun stored => stored.1 = id) store.records with
  | none => .error (.unknownTemplate id)
  | some (_, records) => .ok ⟨records⟩

/-- Before the other in the order of names, and for equal names in the order of identities. -/
def comesBefore (left right : Uuid × TemplateRecord) : Bool :=
  left.2.name < right.2.name || (left.2.name = right.2.name && !right.1.lt left.1)

/-- All templates in the order of their names. -/
def list (store : TemplateStore) : List (Uuid × TemplateRecord) :=
  store.records.mergeSort comesBefore

end TemplateStore

end QueryComposer
