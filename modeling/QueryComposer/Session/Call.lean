import QueryComposer.Query.InPlace
import QueryComposer.Session.Execution

set_option autoImplicit false

/-!
What a session does where it can be refused: the query is changed in a copy, which takes its place
only when the change succeeds, and templates are kept by a service that answers for itself.
-/

namespace QueryComposer

/-- The answers of a service that keeps templates. -/
structure TemplateService where
  create : TemplateRecord → Except Error Uuid
  get : Uuid → Except Error (Option TemplateRecord)

/-- A store as such a service; the next template gets the identity. -/
def TemplateStore.service (store : TemplateStore) (next : Uuid) : TemplateService :=
  { create := fun _ => .ok next, get := fun id => .ok (store.get? id) }

namespace Session

/-- Change a copy of the query in place and take the copy, if the change succeeds. -/
def editInPlace {α : Type} (session : Session) (update : QueryUpdate α) :
    Except Error α × Session :=
  match update session.query with
  | (.error error, _) => (.error error, session)
  | (.ok answer, query) => (.ok answer, session.commit query)

/-- Have the SQL kept as a template. -/
def saveTemplateIn (session : Session) (service : TemplateService) (name description : String)
    (tags : List String) (isPublic : Bool) : Except Error Uuid :=
  match session.toTemplate with
  | .error error => .error error
  | .ok template =>
    service.create { TemplateRecord.ofTemplate name template with description, tags, isPublic }

/-- Take the SQL of a template that a service keeps as written by hand. -/
def loadTemplateFrom (session : Session) (service : TemplateService) (id : Uuid) :
    Except Error Unit × Session :=
  match service.get id with
  | .error error => (.error error, session)
  | .ok none => (.error (.unknownTemplate id), session)
  | .ok (some record) =>
    let template := record.template
    (.ok (), { session with handSql := some template.sql, parameters := template.parameters })

/-- The store of the session is one of the services that keep templates. -/
theorem loadTemplate_eq (session : Session) (id next : Uuid) :
    session.loadTemplate id = session.loadTemplateFrom (session.store.service next) id := by
  unfold loadTemplate loadTemplateFrom TemplateStore.service
  dsimp only
  cases session.store.get? id with
  | none => rfl
  | some record => rfl

end Session

end QueryComposer
