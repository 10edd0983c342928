/-!
Splitting text at a mark.
-/

namespace DeclGraph.Text

/-- The parts of a text between the occurrences of a mark: one more than there are marks. -/
def splitAt (mark : Char) : List Char → List (List Char)
  | [] => [[]]
  | c :: cs =>
    match splitAt mark cs with
    | [] => [[c]]
    | part :: parts => if c = mark then [] :: part :: parts else (c :: part) :: parts

/-- The parts of a text between the occurrences of a word, which are found from the left. After
`limit` occurrences the rest is one part. The next `skip` characters belong to an occurrence. -/
def splitAtWord (word : List Char) : (limit skip : Nat) → List Char → List (List Char)
  | _, _, [] => [[]]
  | limit, skip + 1, _ :: cs => splitAtWord word limit skip cs
  | limit, 0, c :: cs =>
    if limit ≠ 0 ∧ word.isPrefixOf (c :: cs) then
      [] :: splitAtWord word (limit - 1) (word.length - 1) cs
    else
      match splitAtWord word limit 0 cs with
      | [] => [[c]]
      | part :: parts => (c :: part) :: parts

/-- Line breaks of one and of two characters are read as one. -/
def unifyBreaks : List Char → List Char
  | '\r' :: '\n' :: cs => '\n' :: unifyBreaks cs
  | '\r' :: cs => '\n' :: unifyBreaks cs
  | c :: cs => c :: unifyBreaks cs
  | [] => []

theorem splitAt_ne_nil (mark : Char) (cs : List Char) : splitAt mark cs ≠ [] := by
  cases cs with
  | nil => simp [splitAt]
  | cons c cs =>
    unfold splitAt
    split
    · simp
    · split <;> simp

theorem splitAt_cons (mark c : Char) (cs : List Char) :
    splitAt mark (c :: cs) =
      if c = mark then [] :: splitAt mark cs
      else (c :: (splitAt mark cs).headD []) :: (splitAt mark cs).tail := by
  have h := splitAt_ne_nil mark cs
  rw [splitAt]
  cases hs : splitAt mark cs with
  | nil => exact absurd hs h
  | cons part parts => simp

theorem splitAt_of_notMem {mark : Char} {cs : List Char} (h : mark ∉ cs) :
    splitAt mark cs = [cs] := by
  induction cs with
  | nil => rfl
  | cons c cs ih =>
    rw [List.mem_cons, not_or] at h
    have hc : c ≠ mark := Ne.symm h.1
    simp [splitAt_cons, hc, ih h.2]

end DeclGraph.Text
