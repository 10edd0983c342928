import DeclGraph.Outline.Tree

/-!
The guides of an outline mark where its branches begin, so that its lines can be cut into theirs.

The labels may hold guides too. The first character of a line is never one of a label, though: on
the first line of a branch it belongs to a connector, and on any other line to the rest of a guide.
-/

namespace DeclGraph.Outline

variable {bs bs' : List Outline}

/-- What stands before the first line of a branch. -/
def opener (isLast : Bool) : String := if isLast then "└── " else "├── "

/-- What stands before the other lines of a branch. -/
def follower (isLast : Bool) : String := if isLast then "    " else "│   "

/-- A line of a branch which is not its first. -/
def continues (line : String) : Bool :=
  line.toList.head? == some ' ' || line.toList.head? == some '│'

theorem lines_eq_cons (o : Outline) : ∃ first rest, o.lines = first :: rest := by
  obtain ⟨label, branches⟩ := o
  have hne : Text.labelLines label ≠ [] := by
    simpa [Text.labelLines] using Text.splitAt_ne_nil _ _
  obtain ⟨first, rest, h⟩ := List.exists_cons_of_ne_nil hne
  exact ⟨first, rest ++ branchLines branches, by simp [lines, h]⟩

theorem lines_of_labelLines {label text : String} (h : Text.labelLines label = [text]) :
    (mk label bs).lines = text :: branchLines bs := by
  simp [lines, h]

theorem branchLines_nil : branchLines [] = [] := by
  rw [branchLines]

theorem branchLines_cons {b : Outline} {first : String} {rest : List String}
    (h : b.lines = first :: rest) :
    branchLines (b :: bs) =
      (opener bs.isEmpty ++ first) :: (rest.map (follower bs.isEmpty ++ ·) ++ branchLines bs) := by
  rw [branchLines, h]
  cases bs.isEmpty with
  | false => simp [hang, opener, follower]
  | true => simp [hang, opener, follower]

theorem continues_follower (isLast : Bool) (line : String) :
    continues (follower isLast ++ line) = true := by
  cases isLast with
  | false => simp [continues, follower]
  | true => simp [continues, follower]

theorem continues_opener (isLast : Bool) (line : String) :
    continues (opener isLast ++ line) = false := by
  cases isLast with
  | false => simp [continues, opener]
  | true => simp [continues, opener]

theorem opener_append_inj {isLast isLast' : Bool} {line line' : String}
    (h : opener isLast ++ line = opener isLast' ++ line') : isLast = isLast' ∧ line = line' := by
  have hhead := congrArg (fun text => text.toList.take 1) h
  have hlast : isLast = isLast' := by
    cases isLast <;> cases isLast' <;> simp [opener] at hhead ⊢
  subst hlast
  exact ⟨rfl, (String.append_right_inj _).mp h⟩

theorem takeWhile_continues_branchLines (bs : List Outline) :
    (branchLines bs).takeWhile continues = [] := by
  cases bs with
  | nil => rfl
  | cons b bs =>
    obtain ⟨first, rest, h⟩ := lines_eq_cons b
    simp [branchLines_cons h, continues_opener]

/-- The lines that continue a branch end where the next branch begins. -/
theorem takeWhile_continues (isLast : Bool) (rest : List String) (bs : List Outline) :
    (rest.map (follower isLast ++ ·) ++ branchLines bs).takeWhile continues =
      rest.map (follower isLast ++ ·) := by
  have hrest : ∀ line ∈ rest.map (follower isLast ++ ·), continues line = true := by
    simp [continues_follower]
  rw [List.takeWhile_append_of_pos hrest, takeWhile_continues_branchLines, List.append_nil]

theorem followers_append_inj {isLast : Bool} {rest rest' : List String}
    (h : rest.map (follower isLast ++ ·) ++ branchLines bs =
      rest'.map (follower isLast ++ ·) ++ branchLines bs') :
    rest = rest' ∧ branchLines bs = branchLines bs' := by
  have hmap : rest.map (follower isLast ++ ·) = rest'.map (follower isLast ++ ·) := by
    simpa only [takeWhile_continues] using congrArg (List.takeWhile continues) h
  have hrest : rest = rest' :=
    (List.map_inj_right fun _ _ => (String.append_right_inj _).mp).mp hmap
  subst hrest
  exact ⟨rfl, List.append_cancel_left h⟩

/-- Branches that look the same together look the same one by one. -/
theorem branchLines_inj (h : branchLines bs = branchLines bs') : bs.map lines = bs'.map lines := by
  induction bs generalizing bs' with
  | nil =>
    cases bs' with
    | nil => rfl
    | cons b' bs' =>
      obtain ⟨first', rest', hb'⟩ := lines_eq_cons b'
      rw [branchLines_nil, branchLines_cons hb'] at h
      simp at h
  | cons b bs ih =>
    obtain ⟨first, rest, hb⟩ := lines_eq_cons b
    cases bs' with
    | nil =>
      rw [branchLines_nil, branchLines_cons hb] at h
      simp at h
    | cons b' bs' =>
      obtain ⟨first', rest', hb'⟩ := lines_eq_cons b'
      rw [branchLines_cons hb, branchLines_cons hb', List.cons.injEq] at h
      -- the connectors agree on whether more branches follow, and so the further guides agree
      obtain ⟨hlast, hfirst⟩ := opener_append_inj h.1
      rw [hlast] at h
      obtain ⟨hrest, hbs⟩ := followers_append_inj h.2
      rw [List.map_cons, List.map_cons, hb, hb', hfirst, hrest, ih hbs]

/-- Things of which each is known by the lines of its outline are known by the lines of them all. -/
theorem eq_of_map_lines {α : Type} {outline : α → Outline} {as as' : List α}
    (inj : ∀ a ∈ as, ∀ a' ∈ as', (outline a).lines = (outline a').lines → a = a')
    (h : (as.map outline).map lines = (as'.map outline).map lines) : as = as' := by
  induction as generalizing as' with
  | nil => simpa [eq_comm] using h
  | cons a as ih =>
    cases as' with
    | nil => simp at h
    | cons a' as' =>
      simp only [List.map_cons, List.cons.injEq] at h
      have hfirst : a = a' := inj a List.mem_cons_self a' List.mem_cons_self h.1
      have hrest : as = as' := by
        apply ih _ h.2
        intro b hb b' hb'
        exact inj b (List.mem_cons_of_mem _ hb) b' (List.mem_cons_of_mem _ hb')
      rw [hfirst, hrest]

end DeclGraph.Outline
