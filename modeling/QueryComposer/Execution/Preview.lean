import QueryComposer.Settings.Basic

set_option autoImplicit false

/-!
Previews of a query that changes: the query is compiled when no change has come for a quiet
interval, so that of a burst of changes only the last one is compiled. A change that comes at the
very time at which a query is due still replaces it: what is due at a time is published after all
that happens at that time.
-/

namespace QueryComposer

/-- A compiled query with the time at which it was published. -/
structure Publication where
  time : Nat
  compiled : CompiledQuery
deriving DecidableEq, Repr

/-- A preview: the query that waits with the time at which it is due, and what was published, last
first. -/
structure Preview where
  compiler : CompilerSettings
  quiet : UInt64
  waiting : Option (Query × Nat) := none
  published : List Publication := []
deriving Repr

namespace Preview

def ofSettings (settings : Settings) : Preview :=
  { compiler := settings.compiler, quiet := settings.preview.debounceMs }

/-- Publish the query that waits, if it was due before a time. -/
def advance (preview : Preview) (now : Nat) : Preview :=
  match preview.waiting with
  | none => preview
  | some (query, due) =>
    if due < now then
      { preview with
        waiting := none
        published := ⟨due, query.compile preview.compiler⟩ :: preview.published }
    else preview

/-- What is due earlier is published on the way to a later time. -/
theorem advance_advance (preview : Preview) {earlier later : Nat} (order : earlier ≤ later) :
    (preview.advance earlier).advance later = preview.advance later := by
  unfold advance
  cases waiting : preview.waiting with
  | none => simp only [waiting]
  | some wait =>
    obtain ⟨query, due⟩ := wait
    by_cases passed : due < earlier
    · simp only [if_pos passed, if_pos (Nat.lt_of_lt_of_le passed order)]
    · simp only [if_neg passed, waiting]

/-- Publish the query that waits, if it is due at a time or was so before. -/
def settle (preview : Preview) (now : Nat) : Preview :=
  preview.advance (now + 1)

/-- Take a changed query, which starts the quiet interval anew. -/
def notify (preview : Preview) (now : Nat) (query : Query) : Preview :=
  { preview.advance now with waiting := some (query, now + preview.quiet.toNat) }

/-- What was published last. -/
def latest? (preview : Preview) : Option CompiledQuery :=
  preview.published.head?.map Publication.compiled

end Preview

end QueryComposer
