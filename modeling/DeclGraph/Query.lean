/-!
Queries: what may be read off a context, such as a node of a tree.

A query finds a value or does not match. Not matching is no error and carries no reason, so that
alternatives can be tried freely. The effects of `m` are those of running a query, such as the
marks that a traced run leaves; a plain query has `m := Id`.
-/

namespace DeclGraph

/-- A query on contexts of type `γ`: a value, or `none` where the context does not match. -/
abbrev Query (m : Type → Type) (γ α : Type) := γ → m (Option α)

namespace Query

variable {m : Type → Type} [Monad m] {γ δ α β : Type}

def fail : Query m γ α := fun _ => pure none

def succeed (a : α) : Query m γ α := fun _ => pure (some a)

/-- Runs a query on a context of its own, whatever the current one is. -/
def redirect (context : δ) (q : Query m δ α) : Query m γ α := fun _ => q context

def check (holds : γ → Bool) : Query m γ Unit := fun c => pure (if holds c then some () else none)

/-- The values on all contexts, up to the first that does not match. -/
def allOf (q : Query m δ α) : List δ → m (Option (List α))
  | [] => pure (some [])
  | d :: ds => do
    match ← q d with
    | none => pure none
    | some a => return (← allOf q ds).map (a :: ·)

/-- The values on the contexts that match. Every context is visited. -/
def manyOf (q : Query m δ α) : List δ → m (List α)
  | [] => pure []
  | d :: ds => do
    match ← q d with
    | none => manyOf q ds
    | some a => return a :: (← manyOf q ds)

/-- The value on the first context that matches; later ones are not visited. -/
def anyOf (q : Query m δ α) : List δ → m (Option α)
  | [] => pure none
  | d :: ds => do
    match ← q d with
    | none => anyOf q ds
    | some a => pure (some a)

/-- The only element of a list of one. -/
def theOnly : List α → Option α
  | [a] => some a
  | _ => none

/-- Matches when the query matches every selected context. -/
def all (select : γ → List δ) (q : Query m δ α) : Query m γ (List α) := fun c => allOf q (select c)

/-- The values on those selected contexts that match. -/
def many (select : γ → List δ) (q : Query m δ α) : Query m γ (List α) := fun c =>
  some <$> manyOf q (select c)

/-- Like `many`, where at least one selected context has to match. -/
def many1 (select : γ → List δ) (q : Query m δ α) : Query m γ (List α) := fun c =>
  (fun values => if values.isEmpty then none else some values) <$> manyOf q (select c)

/-- The value on the first selected context that matches. -/
def any (select : γ → List δ) (q : Query m δ α) : Query m γ α := fun c => anyOf q (select c)

/-- The value on the one selected context that matches. Two matches are none, even if their values
are equal. -/
def one (select : γ → List δ) (q : Query m δ α) : Query m γ α := fun c =>
  theOnly <$> manyOf q (select c)

/-- Ordered choice: the first alternative that matches decides, and later ones are not run. -/
def first : List (Query m γ α) → Query m γ α
  | [] => fail
  | q :: qs => fun c => do
    match ← q c with
    | none => first qs c
    | some a => pure (some a)

/-- Passes a value through a function that may reject it. -/
def mapOption (q : Query m γ α) (f : α → Option β) : Query m γ β := fun c => (·.bind f) <$> q c

/-- Runs the query that a value selects, on the same context. -/
def andThen (q : Query m γ α) (next : α → Query m γ β) : Query m γ β := fun c => do
  match ← q c with
  | none => pure none
  | some a => next a c

/-- A default where the query does not match. -/
def orDefault (q : Query m γ α) (default : α) : Query m γ α := fun c =>
  (fun value => some (value.getD default)) <$> q c

section Plain

theorem manyOf_id (q : Query Id δ α) (ds : List δ) : manyOf q ds = ds.filterMap q := by
  induction ds with
  | nil => rfl
  | cons d ds ih =>
    show (match q d with | none => manyOf q ds | some a => a :: manyOf q ds) = _
    rw [ih, List.filterMap_cons]
    cases q d <;> rfl

theorem many_id (select : γ → List δ) (q : Query Id δ α) (c : γ) :
    many select q c = some ((select c).filterMap q) :=
  congrArg some (manyOf_id q (select c))

theorem one_id (select : γ → List δ) (q : Query Id δ α) (c : γ) :
    one select q c = theOnly ((select c).filterMap q) :=
  congrArg theOnly (manyOf_id q (select c))

theorem many1_id (select : γ → List δ) (q : Query Id δ α) (c : γ) :
    many1 select q c =
      if ((select c).filterMap q).isEmpty then none else some ((select c).filterMap q) :=
  congrArg (fun values => if values.isEmpty then none else some values) (manyOf_id q (select c))

theorem first_id (qs : List (Query Id γ α)) (c : γ) : first qs c = qs.findSome? (· c) := by
  induction qs with
  | nil => rfl
  | cons q qs ih =>
    show (match q c with | none => first qs c | some a => some a) = _
    rw [ih, List.findSome?_cons]
    cases q c <;> rfl

end Plain

end Query

end DeclGraph
