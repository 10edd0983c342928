import Mathlib.Data.List.Infix
import DeclGraph.Proofs.Text.Markup

/-!
Which escaped texts are shown as they were written, backslashes included.

Two things go wrong. A bracket that starts no tag is not escaped, and still takes away a backslash
that stands before it. Backslashes at the end of a text are escaped as if a tag came after them and
there were one of them: a single one is doubled whatever comes, and before a tag several are halved.
-/

namespace DeclGraph.Text

/-- Every backslash right before a bracket stands before a tag. -/
def KeepsBrackets (cs : List Char) : Prop :=
  ∀ after, '\\' :: '[' :: after <:+ cs → opensTag after = true

/-- The number of backslashes at the end. -/
def endBackslashes (cs : List Char) : Nat := (cs.reverse.takeWhile (· == '\\')).length

/-- What comes after a text in its label. -/
inductive Follower where
  | tag
  | text
deriving DecidableEq, Repr

/-- How many backslashes at the end are shown as so many. -/
def Follower.Allows : Follower → Nat → Prop
  | tag, n => n ≤ 1
  | text, n => n ≠ 1

structure IsVerbatim (follower : Follower) (s : String) : Prop where
  brackets : KeepsBrackets s.toList
  ending : follower.Allows (endBackslashes s.toList)

section Backslashes

variable {c : Char} {cs : List Char}

theorem replicate_append_cons (n : Nat) (cs : List Char) :
    List.replicate n '\\' ++ '\\' :: cs = List.replicate (n + 1) '\\' ++ cs := by
  rw [List.replicate_succ', List.append_assoc]
  rfl

/-- The backslashes at the start of a list can be counted. -/
theorem replicate_append_inj {m n : Nat} {cs ds : List Char} (hcs : cs.head? ≠ some '\\')
    (hds : ds.head? ≠ some '\\')
    (h : List.replicate m '\\' ++ cs = List.replicate n '\\' ++ ds) : m = n ∧ cs = ds := by
  induction m generalizing n with
  | zero =>
    cases n with
    | zero => exact ⟨rfl, h⟩
    | succ n =>
      have hhead : cs = '\\' :: (List.replicate n '\\' ++ ds) := h
      simp [hhead] at hcs
  | succ m ih =>
    cases n with
    | zero =>
      have hhead : '\\' :: (List.replicate m '\\' ++ cs) = ds := h
      simp [← hhead] at hds
    | succ n =>
      obtain ⟨hmn, hrest⟩ := ih (List.cons.inj h).2
      exact ⟨by omega, hrest⟩

theorem keepsBrackets_replicate (n : Nat) : KeepsBrackets (List.replicate n '\\') := by
  intro after hafter
  have hmem : '[' ∈ List.replicate n '\\' := hafter.mem (by simp)
  have heq := List.eq_of_mem_replicate hmem
  simp at heq

theorem keepsBrackets_cons_iff (hc : c ≠ '\\') (n : Nat) :
    KeepsBrackets (List.replicate n '\\' ++ c :: cs) ↔
      (c = '[' → 0 < n → opensTag cs = true) ∧ KeepsBrackets cs := by
  constructor
  · intro h
    constructor
    · rintro rfl hn
      obtain ⟨m, rfl⟩ := Nat.exists_eq_add_one.mpr hn
      apply h
      rw [List.replicate_succ']
      exact ⟨List.replicate m '\\', by simp⟩
    · intro after hafter
      apply h
      exact hafter.trans ((List.suffix_cons c cs).trans (List.suffix_append _ _))
  · rintro ⟨hbracket, hcs⟩ after hafter
    induction n with
    | zero =>
      rcases List.suffix_cons_iff.mp hafter with heq | hsuffix
      · exact absurd (List.cons.inj heq).1.symm hc
      · exact hcs after hsuffix
    | succ n ih =>
      rcases List.suffix_cons_iff.mp hafter with heq | hsuffix
      · cases n with
        | zero =>
          obtain ⟨rfl, rfl⟩ := List.cons.inj (List.cons.inj heq).2
          exact hbracket rfl (by omega)
        | succ n =>
          have hhead := (List.cons.inj (List.cons.inj heq).2).1
          simp at hhead
      · by_cases hn : 0 < n
        · exact ih (fun hopen _ => hbracket hopen (by omega)) hsuffix
        · exact ih (fun _ hpos => absurd hpos hn) hsuffix

theorem endBackslashes_replicate (n : Nat) :
    endBackslashes (List.replicate n '\\') = n := by
  simp [endBackslashes]

theorem endBackslashes_append_cons (hc : c ≠ '\\') (front : List Char) :
    endBackslashes (front ++ c :: cs) = endBackslashes cs := by
  have hstop : (c :: front.reverse).takeWhile (· == '\\') = [] := by simp [hc]
  rw [endBackslashes, endBackslashes, List.reverse_append, List.reverse_cons, List.append_assoc,
    List.singleton_append, List.takeWhile_append]
  split
  · next hall => rw [hstop, List.append_nil, ← hall]
  · rfl

theorem isVerbatim_of_notMem {s : String} (follower : Follower) (hs : '\\' ∉ s.toList) :
    IsVerbatim follower s := by
  have hnone : endBackslashes s.toList = 0 := by
    rw [endBackslashes, List.length_eq_zero_iff, List.eq_nil_iff_forall_not_mem]
    intro c hc
    have hbackslash : c = '\\' := by simpa using List.all_eq_true.mp List.all_takeWhile c hc
    have hmem : c ∈ s.toList := List.mem_reverse.mp ((List.takeWhile_prefix _).mem hc)
    exact hs (hbackslash ▸ hmem)
  constructor
  · intro after hafter
    exact absurd (hafter.mem List.mem_cons_self) hs
  · rw [hnone]
    cases follower <;> simp [Follower.Allows]

theorem IsPlain.isVerbatim {s : String} (hs : IsPlain s) (follower : Follower) :
    IsVerbatim follower s :=
  isVerbatim_of_notMem follower fun h => (hs _ h).2 rfl

theorem sealEnd_eq (cs : List Char) :
    sealEnd cs = if endBackslashes cs = 1 then cs ++ ['\\'] else cs := by
  unfold sealEnd endBackslashes
  split
  · next heq => simp [heq]
  · next hmore heq =>
    rename_i before
    have hend : before.takeWhile (· == '\\') = [] := by
      cases before with
      | nil => rfl
      | cons d ds =>
        have hd : d ≠ '\\' := by
          rintro rfl
          exact hmore ds rfl
        simp [hd]
    simp [heq, hend]
  · next hmore hone =>
    have hend : cs.reverse.takeWhile (· == '\\') = [] := by
      cases hcs : cs.reverse with
      | nil => rfl
      | cons d ds =>
        have hd : d ≠ '\\' := by
          rintro rfl
          exact hone ds hcs
        simp [hd]
    simp [hend]

theorem closesTag_cons_backslash (cs : List Char) : closesTag ('\\' :: cs) = closesTag cs := by
  simp [closesTag]

/-- Escaping a text does not change how many backslashes it ends with: those it adds stand before
brackets. -/
theorem endBackslashes_escapeTags (pending : Nat) (cs : List Char) :
    endBackslashes (List.replicate pending '\\' ++ escapeTags pending cs) =
      endBackslashes (List.replicate pending '\\' ++ cs) := by
  induction cs generalizing pending with
  | nil => rfl
  | cons c cs ih =>
    rw [escapeTags]
    split
    · next hc => rw [hc, replicate_append_cons, replicate_append_cons, ih (pending + 1)]
    · next hc =>
      have htail : endBackslashes (escapeTags 0 cs) = endBackslashes cs := by simpa using ih 0
      rw [endBackslashes_append_cons hc]
      split
      · next htag =>
        rw [← List.append_assoc, endBackslashes_append_cons (by decide), htail]
      · rw [endBackslashes_append_cons hc, htail]

theorem visibleChars_replicate (pending n : Nat) (cs : List Char) :
    visibleChars false pending (List.replicate n '\\' ++ cs) =
      visibleChars false (pending + n) cs := by
  induction n generalizing pending with
  | zero => rfl
  | succ n ih =>
    have hstep := ih (pending + 1)
    rw [show pending + 1 + n = pending + (n + 1) by omega] at hstep
    simpa [List.replicate_succ, visibleChars] using hstep

end Backslashes

section Shown

variable {c : Char} {cs rest shown : List Char}

/-- The part of `visibleChars` at a bracket or another character that is shown, where the
backslashes before it are those of the text. -/
theorem replicate_append_cons_inj (hc : c ≠ '\\') {m n : Nat} {cs ds : List Char} :
    List.replicate m '\\' ++ c :: cs = List.replicate n '\\' ++ c :: ds ↔ m = n ∧ cs = ds := by
  have hhead (es : List Char) : (c :: es).head? ≠ some '\\' := by simpa using hc
  constructor
  · intro h
    obtain ⟨hmn, htail⟩ := replicate_append_inj (hhead cs) (hhead ds) h
    exact ⟨hmn, (List.cons.inj htail).2⟩
  · rintro ⟨rfl, rfl⟩
    rfl

/-- An escaped text is shown as it was written if its brackets are and the backslashes at its end
are, which depends on what comes next. -/
theorem visibleChars_escapeTags_iff (pending : Nat) (hrest : closesTag rest = false) :
    visibleChars false pending (escapeTags pending cs ++ rest) =
        List.replicate pending '\\' ++ (cs ++ shown) ↔
      KeepsBrackets (List.replicate pending '\\' ++ cs) ∧
        visibleChars false (endBackslashes (List.replicate pending '\\' ++ cs)) rest =
          List.replicate (endBackslashes (List.replicate pending '\\' ++ cs)) '\\' ++ shown := by
  induction cs generalizing pending with
  | nil => simp [escapeTags, keepsBrackets_replicate, endBackslashes_replicate]
  | cons c cs ih =>
    have htail := ih 0
    simp only [List.replicate_zero, List.nil_append] at htail
    have hopens : opensTag (escapeTags 0 cs ++ rest) = opensTag cs := opensTag_escapeTags 0 hrest
    rw [escapeTags]
    split
    · next hc =>
      rw [hc, List.cons_append, List.cons_append, replicate_append_cons, replicate_append_cons,
        ← ih (pending + 1)]
      simp [visibleChars]
    · next hc =>
      rw [keepsBrackets_cons_iff hc, endBackslashes_append_cons hc, List.cons_append]
      split
      · next htag =>
        -- the backslashes before the tag were doubled, and one more escapes the tag
        have hshown : visibleChars false pending
            ((List.replicate (pending + 1) '\\' ++ '[' :: escapeTags 0 cs) ++ rest) =
              List.replicate pending '\\' ++
                '[' :: visibleChars false 0 (escapeTags 0 cs ++ rest) := by
          rw [List.append_assoc, visibleChars_replicate, List.cons_append, visibleChars]
          have hhalf : (pending + (pending + 1)) / 2 = pending := by omega
          have hodd : (pending + (pending + 1)) % 2 ≠ 0 := by omega
          simp [hopens, htag.2, hhalf, hodd]
        rw [hshown, htag.1, replicate_append_cons_inj (by decide), htail]
        simp [htag.2]
      · next htag =>
        by_cases hbracket : c = '['
        · have hnone : opensTag cs = false := by simpa [hbracket] using htag
          have hshown : visibleChars false pending (c :: escapeTags 0 cs ++ rest) =
              List.replicate (pending - 1) '\\' ++
                c :: visibleChars false 0 (escapeTags 0 cs ++ rest) := by
            simp [visibleChars, hbracket, hopens, hnone]
          have hkept : pending - 1 = pending ↔ ¬0 < pending := by omega
          rw [hshown, replicate_append_cons_inj hc, htail, hkept]
          simp [hbracket, hnone, and_assoc]
        · have hshown : visibleChars false pending (c :: escapeTags 0 cs ++ rest) =
              List.replicate pending '\\' ++
                c :: visibleChars false 0 (escapeTags 0 cs ++ rest) := by
            simp [visibleChars, hc, hbracket]
          rw [hshown, replicate_append_cons_inj hc, htail]
          simp [hbracket]

/-- How many backslashes stand at the end of an escaped text that ended with `n` of them. -/
def sealedCount (n : Nat) : Nat := if n = 1 then 2 else n

theorem visibleChars_escapeMarkup_iff {s : String} (hrest : closesTag rest = false) :
    visibleChars false 0 ((escapeMarkup s).toList ++ rest) = s.toList ++ shown ↔
      KeepsBrackets s.toList ∧
        visibleChars false (sealedCount (endBackslashes s.toList)) rest =
          List.replicate (endBackslashes s.toList) '\\' ++ shown := by
  have hend : endBackslashes (escapeTags 0 s.toList) = endBackslashes s.toList := by
    simpa using endBackslashes_escapeTags 0 s.toList
  have hiff (rest) (hrest : closesTag rest = false) :
      visibleChars false 0 (escapeTags 0 s.toList ++ rest) = s.toList ++ shown ↔
        KeepsBrackets s.toList ∧ visibleChars false (endBackslashes s.toList) rest =
          List.replicate (endBackslashes s.toList) '\\' ++ shown := by
    simpa using visibleChars_escapeTags_iff 0 hrest
  rw [escapeMarkup, String.toList_ofList, sealEnd_eq, hend, sealedCount]
  split
  · next hone =>
    have hsealed := hiff ('\\' :: rest) (by rw [closesTag_cons_backslash, hrest])
    rw [List.append_assoc, List.singleton_append, hsealed, hone]
    simp [visibleChars]
  · exact hiff rest hrest

/-- Text that starts with neither a backslash nor a bracket. -/
def StartsPlain (rest : List Char) : Prop := rest.head? ≠ some '\\' ∧ rest.head? ≠ some '['

theorem visibleChars_of_startsPlain (hstart : StartsPlain rest) (n : Nat) :
    visibleChars false n rest = List.replicate n '\\' ++ visibleChars false 0 rest := by
  cases rest with
  | nil => simp [visibleChars]
  | cons c cs =>
    have hbackslash : c ≠ '\\' := by
      intro hc
      exact hstart.1 (by simp [hc])
    have hbracket : c ≠ '[' := by
      intro hc
      exact hstart.2 (by simp [hc])
    simp [visibleChars, hbackslash, hbracket]

theorem visibleChars_before_text {s : String} (hrest : closesTag rest = false)
    (hstart : StartsPlain rest) (hshown : shown.head? ≠ some '\\')
    (hplain : (visibleChars false 0 rest).head? ≠ some '\\') :
    visibleChars false 0 ((escapeMarkup s).toList ++ rest) = s.toList ++ shown ↔
      IsVerbatim .text s ∧ visibleChars false 0 rest = shown := by
  rw [visibleChars_escapeMarkup_iff hrest, visibleChars_of_startsPlain hstart]
  constructor
  · rintro ⟨hbrackets, hend⟩
    obtain ⟨hcount, hrest⟩ := replicate_append_inj hplain hshown hend
    refine ⟨⟨hbrackets, ?_⟩, hrest⟩
    intro hone
    rw [hone] at hcount
    simp [sealedCount] at hcount
  · rintro ⟨⟨hbrackets, hend⟩, rfl⟩
    have hsealed : sealedCount (endBackslashes s.toList) = endBackslashes s.toList := if_neg hend
    exact ⟨hbrackets, by rw [hsealed]⟩

/-- Backslashes before a tag are halved, and of an odd number of them one escapes the tag. -/
theorem visibleChars_tag_of_backslashes (n : Nat) (hstart : isTagStart c = true)
    (htag : ∀ d ∈ c :: cs, d ≠ '[' ∧ d ≠ ']') :
    visibleChars false n ('[' :: c :: cs ++ ']' :: rest) = List.replicate (n / 2) '\\' ++
      (if n % 2 = 0 then visibleChars false 0 rest
        else '[' :: visibleChars false 0 (c :: cs ++ ']' :: rest)) := by
  have hopen : '[' ∉ cs := fun h => (htag _ (List.mem_cons_of_mem _ h)).1 rfl
  have hclose : ']' ∉ c :: cs := fun h => (htag _ h).2 rfl
  have hopens : opensTag (c :: (cs ++ ']' :: rest)) = true := by
    simp [opensTag, hstart, closesTag_append_of_mem hopen]
  have hskip : visibleChars true 0 (c :: (cs ++ ']' :: rest)) = visibleChars false 0 rest :=
    visibleChars_inTag hclose
  rw [List.cons_append, List.cons_append, visibleChars]
  simp [hopens, hskip]

theorem visibleChars_before_tag {s : String} (c : Char) (cs rest : List Char)
    (hstart : isTagStart c = true) (htag : ∀ d ∈ c :: cs, d ≠ '[' ∧ d ≠ ']')
    (hshown : shown.head? ≠ some '\\')
    (hplain : (visibleChars false 0 rest).head? ≠ some '\\') :
    visibleChars false 0 ((escapeMarkup s).toList ++ ('[' :: c :: cs ++ ']' :: rest)) =
        s.toList ++ shown ↔
      IsVerbatim .tag s ∧ visibleChars false 0 rest = shown := by
  have hcloses : closesTag ('[' :: c :: cs ++ ']' :: rest) = false := by simp [closesTag]
  rw [visibleChars_escapeMarkup_iff hcloses, visibleChars_tag_of_backslashes _ hstart htag]
  constructor
  · rintro ⟨hbrackets, hend⟩
    have hhead : (if sealedCount (endBackslashes s.toList) % 2 = 0 then visibleChars false 0 rest
        else '[' :: visibleChars false 0 (c :: cs ++ ']' :: rest)).head? ≠ some '\\' := by
      split
      · exact hplain
      · simp
    obtain ⟨hcount, hrest⟩ := replicate_append_inj hhead hshown hend
    -- only no backslash and a single one, which was doubled, are as many after halving
    have hfew : endBackslashes s.toList ≤ 1 := by
      unfold sealedCount at hcount
      split at hcount <;> omega
    refine ⟨⟨hbrackets, hfew⟩, ?_⟩
    have heven : sealedCount (endBackslashes s.toList) % 2 = 0 := by
      unfold sealedCount
      split <;> omega
    rwa [if_pos heven] at hrest
  · rintro ⟨⟨hbrackets, hfew⟩, rfl⟩
    have hfew : endBackslashes s.toList ≤ 1 := hfew
    have heven : sealedCount (endBackslashes s.toList) % 2 = 0 := by
      unfold sealedCount
      split <;> omega
    have hhalf : sealedCount (endBackslashes s.toList) / 2 = endBackslashes s.toList := by
      unfold sealedCount
      split <;> omega
    exact ⟨hbrackets, by rw [if_pos heven, hhalf]⟩

end Shown

section Controls

variable {c : Char}

theorem mem_visibleChars {inTag : Bool} {pending : Nat} {cs : List Char}
    (h : c ∈ visibleChars inTag pending cs) : c = '\\' ∨ c ∈ cs := by
  induction cs generalizing inTag pending with
  | nil => exact .inl (List.eq_of_mem_replicate h)
  | cons d ds ih =>
    have htail {inTag pending} (h : c ∈ visibleChars inTag pending ds) : c = '\\' ∨ c ∈ d :: ds :=
      (ih h).imp_right (List.mem_cons_of_mem d)
    have hhead {n : Nat} {t : Bool} {m : Nat}
        (h : c ∈ List.replicate n '\\' ++ d :: visibleChars t m ds) :
        c = '\\' ∨ c ∈ d :: ds := by
      rcases List.mem_append.mp h with h | h
      · exact .inl (List.eq_of_mem_replicate h)
      · rcases List.mem_cons.mp h with rfl | h
        · exact .inr List.mem_cons_self
        · exact htail h
    rw [visibleChars] at h
    split at h
    · exact htail h
    · split at h
      · exact htail h
      · split at h
        · next hd =>
          subst hd
          split at h
          · rcases List.mem_append.mp h with h | h
            · exact .inl (List.eq_of_mem_replicate h)
            · split at h
              · exact htail h
              · apply hhead (n := 0)
                exact h
          · exact hhead h
        · exact hhead h

theorem mem_escapeTags {pending : Nat} {cs : List Char} (h : c ∈ escapeTags pending cs) :
    c = '\\' ∨ c ∈ cs := by
  induction cs generalizing pending with
  | nil => exact .inr h
  | cons d ds ih =>
    have htail {pending} (h : c ∈ escapeTags pending ds) : c = '\\' ∨ c ∈ d :: ds :=
      (ih h).imp_right (List.mem_cons_of_mem d)
    rw [escapeTags] at h
    split at h
    · rcases List.mem_cons.mp h with h | h
      · exact .inl h
      · exact htail h
    · split at h
      · next htag =>
        rcases List.mem_append.mp h with h | h
        · exact .inl (List.eq_of_mem_replicate h)
        · rcases List.mem_cons.mp h with rfl | h
          · exact .inr (by simp [htag.1])
          · exact htail h
      · rcases List.mem_cons.mp h with rfl | h
        · exact .inr List.mem_cons_self
        · exact htail h

/-- Escaping adds nothing but backslashes. -/
theorem mem_escapeMarkup {s : String} (h : c ∈ (escapeMarkup s).toList) :
    c = '\\' ∨ c ∈ s.toList := by
  rw [escapeMarkup, String.toList_ofList, sealEnd_eq] at h
  split at h
  · rcases List.mem_append.mp h with h | h
    · exact mem_escapeTags h
    · exact .inl (List.mem_singleton.mp h)
  · exact mem_escapeTags h

/-- Without device controls all visible characters of a label are shown. -/
theorem visibleText_eq_iff {label text : String}
    (hlabel : ∀ c ∈ label.toList, isDeviceControl c = false) :
    visibleText label = text ↔ visibleChars false 0 label.toList = text.toList := by
  have hfilter : (visibleChars false 0 label.toList).filter (!isDeviceControl ·) =
      visibleChars false 0 label.toList := by
    rw [List.filter_eq_self]
    intro c hc
    rcases mem_visibleChars hc with rfl | hmem
    · rfl
    · rw [hlabel c hmem]
      rfl
  rw [visibleText, hfilter, ← String.toList_inj, String.toList_ofList]

end Controls

end DeclGraph.Text
