import DeclGraph.Config.Destination
import DeclGraph.Proofs.Text.Split

/-!
Destinations as they are kept: the path of a log file is absolute and normalised, so that its text is
read as the same destination again, whatever the home directories are.
-/

namespace DeclGraph

namespace Path

variable {path : Path} {homes : Homes}

/-- What reading a path gives: at most two slashes before it, and components that name something. -/
structure IsNormal (path : Path) : Prop where
  root : path.root ≤ 2
  parts : ∀ part ∈ path.parts, isPart part = true ∧ '/' ∉ part

theorem isNormal_ofChars (cs : List Char) : (ofChars cs).IsNormal := by
  constructor
  · show rootOf cs ≤ 2
    unfold rootOf
    dsimp only
    split <;> omega
  · intro part hpart
    obtain ⟨hmem, hkept⟩ := List.mem_filter.mp hpart
    exact ⟨hkept, Text.notMem_of_mem_splitAt hmem⟩

theorem IsNormal.expandHome (h : path.IsNormal) {expanded : Path}
    (hexpanded : path.expandHome homes = .ok expanded) : expanded.IsNormal := by
  unfold Path.expandHome at hexpanded
  split at hexpanded
  · next account parts _ hparts =>
    split at hexpanded
    · cases hexpanded
    · split at hexpanded
      · next home _ =>
        split at hexpanded
        · cases hexpanded
        · cases hexpanded
          have hbase := isNormal_ofChars home.toList
          constructor
          · exact hbase.root
          · intro part hpart
            rcases List.mem_append.mp hpart with hpart | hpart
            · exact hbase.parts part hpart
            · apply h.parts part
              rw [hparts]
              exact List.mem_cons_of_mem _ hpart
      · cases hexpanded
  · cases hexpanded
    exact h

theorem IsNormal.head?_intercalate (h : path.IsNormal) :
    (['/'].intercalate path.parts).head? ≠ some '/' := by
  cases hparts : path.parts with
  | nil => simp
  | cons part parts =>
    obtain ⟨hpart, hslash⟩ := h.parts part (by rw [hparts]; exact List.mem_cons_self)
    cases part with
    | nil => cases hpart
    | cons c cs =>
      have hc : c ≠ '/' := fun hc => hslash (hc ▸ List.mem_cons_self)
      cases parts with
      | nil => simpa using hc
      | cons next parts => simpa [List.intercalate_cons_cons] using hc

theorem IsNormal.rootOf_toChars (h : path.IsNormal) (habsolute : path.isAbsolute = true) :
    rootOf path.toChars = path.root := by
  have hroot : path.root ≠ 0 := by simpa [isAbsolute] using habsolute
  have hstop : (['/'].intercalate path.parts).takeWhile (· == '/') = [] := by
    have hhead := h.head?_intercalate
    cases hchars : ['/'].intercalate path.parts with
    | nil => rfl
    | cons c cs =>
      rw [hchars] at hhead
      have hc : c ≠ '/' := by simpa using hhead
      simp [hc]
  have hall : ∀ c ∈ List.replicate path.root '/', (c == '/') = true := by
    intro c hc
    simp [List.eq_of_mem_replicate hc]
  have hlength : (path.toChars.takeWhile (· == '/')).length = path.root := by
    rw [toChars, if_neg (by simp [hroot]), List.takeWhile_append_of_pos hall, hstop]
    simp
  have hfew := h.root
  unfold rootOf
  simp only [hlength]
  split <;> omega

/-- The text of an absolute path is read as that path. -/
theorem IsNormal.ofChars_toChars (h : path.IsNormal) (habsolute : path.isAbsolute = true) :
    ofChars path.toChars = path := by
  have hroot : path.root ≠ 0 := by simpa [isAbsolute] using habsolute
  have hempty : (List.replicate path.root ([] : List Char)).filter isPart = [] := by
    simp [isPart]
  have hkept : path.parts.filter isPart = path.parts := by
    rw [List.filter_eq_self]
    intro part hpart
    exact (h.parts part hpart).1
  have hsplit : (Text.splitAt '/' (['/'].intercalate path.parts)).filter isPart = path.parts := by
    cases hparts : path.parts with
    | nil => rfl
    | cons part parts =>
      rw [← hparts, Text.splitAt_intercalate (fun part hpart => (h.parts part hpart).2)
        (by simp [hparts]), hkept]
  have hparts : (Text.splitAt '/' path.toChars).filter isPart = path.parts := by
    rw [toChars, if_neg (by simp [hroot]), Text.splitAt_replicate_append, List.filter_append,
      hempty, hsplit, List.nil_append]
  rw [ofChars, h.rootOf_toChars habsolute, hparts]

theorem head?_text (habsolute : path.isAbsolute = true) : path.text.toList.head? = some '/' := by
  have hroot : path.root ≠ 0 := by simpa [isAbsolute] using habsolute
  obtain ⟨n, hn⟩ := Nat.exists_eq_succ_of_ne_zero hroot
  rw [text, String.toList_ofList, toChars, if_neg (by simp [hroot]), hn]
  rfl

/-- Only relative paths start in a home directory. -/
theorem expandHome_of_isAbsolute (habsolute : path.isAbsolute = true) :
    path.expandHome homes = .ok path := by
  have hroot : path.root ≠ 0 := by simpa [isAbsolute] using habsolute
  unfold Path.expandHome
  split
  · next hzero _ => exact absurd hzero hroot
  · rfl

end Path

namespace Destination

variable {destination : Destination} {homes : Homes} {text : String}

/-- A standard stream, or a file whose path is absolute and normalised. -/
def IsSettled : Destination → Prop
  | stderr | stdout => True
  | file text => ∃ path : Path, path.IsNormal ∧ path.isAbsolute = true ∧ path.text = text

theorem isSettled_of_ofText (h : ofText homes text = .ok destination) : destination.IsSettled := by
  unfold ofText at h
  split at h
  · cases h
    trivial
  · split at h
    · cases h
      trivial
    · split at h
      · cases h
      · next path hpath =>
        split at h
        · next habsolute =>
          cases h
          exact ⟨path, (Path.isNormal_ofChars _).expandHome hpath, habsolute, rfl⟩
        · cases h

/-- A destination that is settled is read from its own text, and no home directory matters. -/
theorem IsSettled.ofText_text (h : destination.IsSettled) (homes : Homes) :
    ofText homes destination.text = .ok destination := by
  cases destination with
  | stderr => rfl
  | stdout => rfl
  | file text =>
    obtain ⟨path, hnormal, habsolute, rfl⟩ := h
    have hhead := Path.head?_text habsolute
    have hstderr : path.text ≠ "stderr" := by
      intro heq
      simp [heq] at hhead
    have hstdout : path.text ≠ "stdout" := by
      intro heq
      simp [heq] at hhead
    have hread : Path.ofString path.text = path := by
      rw [Path.ofString, Path.text, String.toList_ofList, hnormal.ofChars_toChars habsolute]
    rw [Destination.text, ofText, if_neg hstderr, if_neg hstdout, hread,
      Path.expandHome_of_isAbsolute habsolute]
    simp [habsolute]

/-- What is settled is one of the two streams or has an absolute path. -/
theorem IsSettled.isAbsolute (h : destination.IsSettled) :
    destination = stderr ∨ destination = stdout ∨
      ∃ path, destination = file path ∧ (Path.ofString path).isAbsolute = true := by
  cases destination with
  | stderr => exact .inl rfl
  | stdout => exact .inr (.inl rfl)
  | file text =>
    obtain ⟨path, hnormal, habsolute, rfl⟩ := h
    refine .inr (.inr ⟨path.text, rfl, ?_⟩)
    rw [Path.ofString, Path.text, String.toList_ofList, hnormal.ofChars_toChars habsolute]
    exact habsolute

end Destination

end DeclGraph
