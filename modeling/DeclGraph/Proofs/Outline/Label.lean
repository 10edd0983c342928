import DeclGraph.Outline.Dump
import DeclGraph.Proofs.Outline.KeyText
import DeclGraph.Proofs.Text.Verbatim

/-!
The labels of a module's outline: how they are shown, and what is read back from them.

Names are shown as they are, so that a name may look like a key, a list of uses or a tag. Still the
label of an entity is read in one way, from its end: keys and lists of keys have characters of their
own.
-/

namespace DeclGraph

open Text (IsPlain IsLiteral IsVerbatim cut_at_first cut_at_last labelLines escapeMarkup visibleChars)
open SymbolKey (notMem_text notMem_listText listText)

/-- How an entity is shown. -/
def entityText (name : String) (key : SymbolKey) : String := name ++ " " ++ key.text

def usesText (name : String) (key : SymbolKey) (uses : Uses) : String :=
  entityText name key ++ " -> " ++ listText uses

def recordText (name : String) (key : SymbolKey) : String :=
  entityText name key ++ " \x7brecord\x7d"

def declText (keyword name : String) (key : SymbolKey) : String :=
  keyword ++ " " ++ entityText name key

def titleText (name path : String) : String := name ++ " (" ++ path ++ ")"

section Shown

variable {keyword name path tail : String} {key : SymbolKey}

theorem visibleChars_before_literal (name : String) (htail : IsLiteral tail) :
    visibleChars false 0 ((escapeMarkup name).toList ++ tail.toList) =
        name.toList ++ tail.toList ↔ IsVerbatim .text name := by
  have hhead (c : Char) (hc : c = '\\' ∨ c = '[') : tail.toList.head? ≠ some c := by
    intro h
    obtain ⟨-, hbackslash, hbracket, -⟩ := htail c (List.mem_of_head? h)
    exact hc.elim hbackslash hbracket
  have hshown := htail.visibleChars_eq
  rw [Text.visibleChars_before_text htail.closesTag_eq_false ⟨hhead _ (.inl rfl), hhead _ (.inr rfl)⟩
    (hhead _ (.inl rfl)) (by rw [hshown]; exact hhead _ (.inl rfl))]
  exact and_iff_left hshown

theorem visibleChars_escapeMarkup (name : String) :
    visibleChars false 0 (escapeMarkup name).toList = name.toList ↔ IsVerbatim .text name := by
  have hempty : IsLiteral "" := by simp [IsLiteral]
  simpa using visibleChars_before_literal name hempty

theorem visibleChars_entityLabel_append (name : String) (key : SymbolKey)
    (htail : IsLiteral tail) :
    visibleChars false 0 (entityLabel name key ++ tail).toList =
        (entityText name key ++ tail).toList ↔ IsVerbatim .text name := by
  have hspace : IsLiteral " " := by simp [IsLiteral]
  rw [← visibleChars_before_literal name (hspace.append (key.isLiteral_text.append htail))]
  simp [entityLabel, entityText]

theorem visibleChars_entityLabel (name : String) (key : SymbolKey) :
    visibleChars false 0 (entityLabel name key).toList = (entityText name key).toList ↔
      IsVerbatim .text name := by
  have hempty : IsLiteral "" := by simp [IsLiteral]
  have hentity := visibleChars_entityLabel_append name key hempty
  rwa [String.append_empty, String.append_empty] at hentity

theorem visibleChars_usesLabel (name : String) (key : SymbolKey) (uses : Uses) :
    visibleChars false 0 (usesLabel name key uses).toList = (usesText name key uses).toList ↔
      IsVerbatim .text name := by
  have harrow : IsLiteral " -> " := by simp [IsLiteral]
  have huses : IsLiteral (" -> " ++ listText uses) :=
    harrow.append (SymbolKey.isLiteral_listText uses)
  rw [usesLabel, usesText, String.append_assoc, String.append_assoc,
    visibleChars_entityLabel_append name key huses]

theorem visibleChars_recordLabel (name : String) (key : SymbolKey) :
    visibleChars false 0 (entityLabel name key ++ " \x7brecord\x7d").toList =
        (recordText name key).toList ↔ IsVerbatim .text name :=
  visibleChars_entityLabel_append name key (by simp [IsLiteral])

/-- The tags around a keyword are not shown. -/
theorem visibleChars_declLabel (hkeyword : IsLiteral keyword) (name : String) (key : SymbolKey) :
    visibleChars false 0 (declLabel keyword name key).toList =
        (declText keyword name key).toList ↔ IsVerbatim .text name := by
  have hspace : IsLiteral " " := by simp [IsLiteral]
  have hopen (rest) : visibleChars false 0 ("[bold]".toList ++ rest) = visibleChars false 0 rest :=
    Text.visibleChars_tag 'b' "old".toList rest (by decide) (by simp)
  have hclose (rest) :
      visibleChars false 0 ("[/bold]".toList ++ rest) = visibleChars false 0 rest :=
    Text.visibleChars_tag '/' "bold".toList rest (by decide) (by simp)
  have hlabel : (declLabel keyword name key).toList = "[bold]".toList ++
      (keyword.toList ++ ("[/bold]".toList ++ (" ".toList ++ (entityLabel name key).toList))) := by
    simp [declLabel]
  have htext : (declText keyword name key).toList =
      keyword.toList ++ (" ".toList ++ (entityText name key).toList) := by
    simp [declText]
  rw [hlabel, htext, hopen, hkeyword.visibleChars_append, hclose, hspace.visibleChars_append,
    List.append_cancel_left_eq, List.append_cancel_left_eq, visibleChars_entityLabel]

theorem visibleChars_titleLabel (name path : String) :
    visibleChars false 0
        ("[cyan]" ++ escapeMarkup name ++ "[/cyan] (" ++ escapeMarkup path ++ ")").toList =
      (titleText name path).toList ↔ IsVerbatim .tag name ∧ IsVerbatim .text path := by
  have hopening : IsLiteral " (" := by simp [IsLiteral]
  have hclosing : IsLiteral ")" := by simp [IsLiteral]
  have hlabel :
      ("[cyan]" ++ escapeMarkup name ++ "[/cyan] (" ++ escapeMarkup path ++ ")").toList =
        "[cyan]".toList ++ ((escapeMarkup name).toList ++ ("[/cyan]".toList ++ (" (".toList ++
          ((escapeMarkup path).toList ++ ")".toList)))) := by
    simp
  have htext : (titleText name path).toList =
      name.toList ++ (" (".toList ++ (path.toList ++ ")".toList)) := by
    simp [titleText]
  have hopen (rest) : visibleChars false 0 ("[cyan]".toList ++ rest) = visibleChars false 0 rest :=
    Text.visibleChars_tag 'c' "yan".toList rest (by decide) (by simp)
  have hrest : visibleChars false 0
      (" (".toList ++ ((escapeMarkup path).toList ++ ")".toList)) =
        " (".toList ++ visibleChars false 0 ((escapeMarkup path).toList ++ ")".toList) :=
    hopening.visibleChars_append _
  have hname : visibleChars false 0 ((escapeMarkup name).toList ++ ("[/cyan]".toList ++
      (" (".toList ++ ((escapeMarkup path).toList ++ ")".toList)))) =
        name.toList ++ (" (".toList ++ (path.toList ++ ")".toList)) ↔
      IsVerbatim .tag name ∧
        visibleChars false 0 (" (".toList ++ ((escapeMarkup path).toList ++ ")".toList)) =
          " (".toList ++ (path.toList ++ ")".toList) := by
    refine Text.visibleChars_before_tag '/' "cyan".toList
      (" (".toList ++ ((escapeMarkup path).toList ++ ")".toList)) ?_ ?_ ?_ ?_
    · decide
    · simp
    · simp
    · rw [hrest]
      simp
  rw [hlabel, hopen, htext, hname, hrest, List.append_cancel_left_eq,
    visibleChars_before_literal path hclosing]

end Shown

section Lines

variable {keyword name path : String} {key : SymbolKey} {uses : Uses}

theorem isPlain_entityText (key : SymbolKey) (hname : IsPlain name) :
    IsPlain (entityText name key) := by
  have hspace : IsLiteral " " := by simp [IsLiteral]
  exact (hname.append hspace.isPlain).append key.isLiteral_text.isPlain

theorem labelLines_escapeMarkup (hname : IsPlain name) : labelLines (escapeMarkup name) = [name] :=
  Text.labelLines_of_visibleChars hname
    ((visibleChars_escapeMarkup name).mpr (hname.isVerbatim .text))

theorem labelLines_entityLabel (hname : IsPlain name) :
    labelLines (entityLabel name key) = [entityText name key] :=
  Text.labelLines_of_visibleChars (isPlain_entityText key hname)
    ((visibleChars_entityLabel name key).mpr (hname.isVerbatim .text))

theorem labelLines_usesLabel (hname : IsPlain name) :
    labelLines (usesLabel name key uses) = [usesText name key uses] := by
  have harrow : IsLiteral " -> " := by simp [IsLiteral]
  have hplain : IsPlain (usesText name key uses) :=
    ((isPlain_entityText key hname).append harrow.isPlain).append
      (SymbolKey.isLiteral_listText uses).isPlain
  exact Text.labelLines_of_visibleChars hplain
    ((visibleChars_usesLabel name key uses).mpr (hname.isVerbatim .text))

theorem labelLines_recordLabel (hname : IsPlain name) :
    labelLines (entityLabel name key ++ " \x7brecord\x7d") = [recordText name key] := by
  have hmark : IsLiteral " \x7brecord\x7d" := by simp [IsLiteral]
  have hplain : IsPlain (recordText name key) := (isPlain_entityText key hname).append hmark.isPlain
  exact Text.labelLines_of_visibleChars hplain
    ((visibleChars_recordLabel name key).mpr (hname.isVerbatim .text))

theorem labelLines_declLabel (hkeyword : IsLiteral keyword) (hname : IsPlain name) :
    labelLines (declLabel keyword name key) = [declText keyword name key] := by
  have hspace : IsLiteral " " := by simp [IsLiteral]
  have hplain : IsPlain (declText keyword name key) :=
    (hkeyword.append hspace).isPlain.append (isPlain_entityText key hname)
  exact Text.labelLines_of_visibleChars hplain
    ((visibleChars_declLabel hkeyword name key).mpr (hname.isVerbatim .text))

theorem labelLines_titleLabel (hname : IsPlain name) (hpath : IsPlain path) :
    labelLines ("[cyan]" ++ escapeMarkup name ++ "[/cyan] (" ++ escapeMarkup path ++ ")") =
      [titleText name path] := by
  have hopening : IsLiteral " (" := by simp [IsLiteral]
  have hclosing : IsLiteral ")" := by simp [IsLiteral]
  have hplain : IsPlain (titleText name path) :=
    ((hname.append hopening.isPlain).append hpath).append hclosing.isPlain
  exact Text.labelLines_of_visibleChars hplain
    ((visibleChars_titleLabel name path).mpr ⟨hname.isVerbatim .tag, hpath.isVerbatim .text⟩)

end Lines

section Reading

variable {name name' path path' : String} {key key' : SymbolKey} {uses uses' : Uses}

theorem entityText_inj (h : entityText name key = entityText name' key') :
    name = name' ∧ key = key' := by
  have hchars :
      name.toList ++ ' ' :: key.text.toList = name'.toList ++ ' ' :: key'.text.toList := by
    simpa [entityText] using congrArg String.toList h
  obtain ⟨hname, hkey⟩ := cut_at_last (notMem_text rfl key) (notMem_text rfl key') hchars
  exact ⟨String.toList_inj.mp hname, SymbolKey.text_inj (String.toList_inj.mp hkey)⟩

theorem usesText_inj (h : usesText name key uses = usesText name' key' uses') :
    name = name' ∧ key = key' ∧ uses = uses' := by
  have hchars :
      ((entityText name key).toList ++ [' ', '-']) ++ '>' :: ' ' :: (listText uses).toList =
        ((entityText name' key').toList ++ [' ', '-']) ++ '>' :: ' ' :: (listText uses').toList := by
    simpa [usesText] using congrArg String.toList h
  -- the name may hold an arrow, the list of uses may not
  have harrow (keys) : '>' ∉ ' ' :: (listText keys).toList := by
    simpa using notMem_listText rfl keys
  obtain ⟨hentity, huses⟩ := cut_at_last (harrow uses) (harrow uses') hchars
  have hentity : entityText name key = entityText name' key' :=
    String.toList_inj.mp (List.append_cancel_right hentity)
  have huses : listText uses = listText uses' := String.toList_inj.mp (List.cons.inj huses).2
  exact ⟨(entityText_inj hentity).1, (entityText_inj hentity).2, SymbolKey.listText_inj huses⟩

theorem recordText_inj (h : recordText name key = recordText name' key') :
    name = name' ∧ key = key' :=
  entityText_inj ((String.append_left_inj _).mp h)

/-- The last character tells a constructor with a list of uses from one with fields. -/
theorem usesText_ne_recordText : usesText name key uses ≠ recordText name' key' := by
  intro h
  have hlast : (usesText name key uses).toList.getLast? = some '\x7d' := by
    rw [h]
    simp [recordText]
  have hmem : '\x7d' ∈ " -> ".toList ++ (listText uses).toList := by
    rw [usesText, String.toList_append, String.toList_append, List.append_assoc,
      List.getLast?_append_of_ne_nil _ (by simp)] at hlast
    exact List.mem_of_getLast? hlast
  exact notMem_listText rfl uses (by simpa using hmem)

theorem declText_inj {keyword : String}
    (h : declText keyword name key = declText keyword name' key') :
    name = name' ∧ key = key' :=
  entityText_inj ((String.append_right_inj _).mp h)

/-- The keyword tells a data type from a class. -/
theorem declText_data_ne_class :
    declText "data" name key ≠ declText "class" name' key' := by
  intro h
  have hchars := congrArg String.toList h
  simp [declText] at hchars

theorem titleText_inj (hname : ' ' ∉ name.toList) (hname' : ' ' ∉ name'.toList)
    (h : titleText name path = titleText name' path') : name = name' ∧ path = path' := by
  have hchars : name.toList ++ ' ' :: '(' :: (path.toList ++ [')']) =
      name'.toList ++ ' ' :: '(' :: (path'.toList ++ [')']) := by
    simpa [titleText] using congrArg String.toList h
  obtain ⟨hname, hpath⟩ := cut_at_first hname hname' hchars
  have hpath : path.toList = path'.toList := List.append_cancel_right (List.cons.inj hpath).2
  exact ⟨String.toList_inj.mp hname, String.toList_inj.mp hpath⟩

end Reading

end DeclGraph
