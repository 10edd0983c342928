import DeclGraph.Proofs.Outline.Label
import DeclGraph.Proofs.Text.Verbatim

/-!
The labels of a module's outline, and which of them show their names as they are.

Each label is a fixed text around names. A name is followed by fixed text or by nothing, except that
a module's name is followed by the end of a style tag. What follows decides which backslashes at the
end of a name are shown.
-/

namespace DeclGraph

open Text (IsLiteral Follower escapeMarkup visibleChars visibleText isDeviceControl endBackslashes)

/-- The words that name a kind of declaration. -/
inductive Keyword where
  | data
  | value
  | typeClass
deriving DecidableEq, Repr

def Keyword.text : Keyword → String
  | data => "data"
  | value => "value"
  | typeClass => "class"

theorem Keyword.isLiteral_text (keyword : Keyword) : IsLiteral keyword.text := by
  cases keyword <;> simp [IsLiteral, text]

/-- A label, by what it shows. -/
inductive Label where
  | title (name path : String)
  | imports
  | imported (name : String)
  | decl (keyword : Keyword) (name : String) (key : SymbolKey)
  | method (name : String) (key : SymbolKey)
  | record (name : String) (key : SymbolKey)
  | withUses (name : String) (key : SymbolKey) (uses : Uses)
deriving DecidableEq, Repr

namespace Label

def markup : Label → String
  | title name path => "[cyan]" ++ escapeMarkup name ++ "[/cyan] (" ++ escapeMarkup path ++ ")"
  | imports => "imports"
  | imported name => escapeMarkup name
  | decl keyword name key => declLabel keyword.text name key
  | method name key => entityLabel name key
  | record name key => entityLabel name key ++ " \x7brecord\x7d"
  | withUses name key uses => usesLabel name key uses

/-- The fixed text of a label, with the names as they are. -/
def text : Label → String
  | title name path => titleText name path
  | imports => "imports"
  | imported name => name
  | decl keyword name key => declText keyword.text name key
  | method name key => entityText name key
  | record name key => recordText name key
  | withUses name key uses => usesText name key uses

/-- The names in a label, each with what comes after it. -/
def names : Label → List (Follower × String)
  | title name path => [(.tag, name), (.text, path)]
  | imports => []
  | imported name => [(.text, name)]
  | decl _ name _ | method name _ | record name _ | withUses name _ _ => [(.text, name)]

def IsVerbatim (label : Label) : Prop := ∀ name ∈ label.names, Text.IsVerbatim name.1 name.2

end Label

section Labels

def RecordField.labels (field : RecordField) : List Label :=
  [.withUses field.name field.key field.uses]

def Constructor.labels (con : Constructor) : List Label :=
  match con.body with
  | .naked uses => [.withUses con.name con.key uses]
  | .record fields => .record con.name con.key :: fields.flatMap RecordField.labels

def Method.labels (method : Method) : List Label := [.method method.name method.key]

def Decl.labels : Decl → List Label
  | .data type =>
    .decl .data type.name type.key :: type.constructors.flatMap Constructor.labels
  | .value binding => [.decl .value binding.name binding.key]
  | .typeClass cls => .decl .typeClass cls.name cls.key :: cls.methods.flatMap Method.labels

namespace Module

def importsLabels (imports : List String) : List Label :=
  if imports.isEmpty then [] else .imports :: imports.map Label.imported

/-- The labels of a module's outline, each before those below it. -/
def labels (module : Module) : List Label :=
  .title module.name module.path ::
    (importsLabels module.imports ++ module.decls.flatMap Decl.labels)

end Module

namespace Outline

mutual

def labels : Outline → List String
  | mk label branches => label :: labelsAll branches

def labelsAll : List Outline → List String
  | [] => []
  | branch :: branches => labels branch ++ labelsAll branches

end

theorem labelsAll_eq_flatMap (branches : List Outline) :
    labelsAll branches = branches.flatMap labels := by
  induction branches with
  | nil => simp [labelsAll]
  | cons branch branches ih => simp [labelsAll, ih]

theorem labels_mk (label : String) (branches : List Outline) :
    (mk label branches).labels = label :: branches.flatMap labels := by
  rw [labels, labelsAll_eq_flatMap]

theorem labels_leaf (label : String) : (leaf label).labels = [label] := by
  rw [leaf, labels_mk, List.flatMap_nil]

theorem flatMap_labels_map {α : Type} {outline : α → Outline} {labelsOf : α → List Label}
    (h : ∀ a, (outline a).labels = (labelsOf a).map Label.markup) (as : List α) :
    (as.map outline).flatMap labels = (as.flatMap labelsOf).map Label.markup := by
  rw [List.flatMap_map, List.map_flatMap]
  apply List.flatMap_congr
  intro a _
  exact h a

end Outline

open Outline (labels_mk labels_leaf flatMap_labels_map)

theorem RecordField.labels_outline (field : RecordField) :
    field.outline.labels = field.labels.map Label.markup := by
  rw [outline, labels_leaf]
  rfl

theorem Constructor.labels_outline (con : Constructor) :
    con.outline.labels = con.labels.map Label.markup := by
  obtain ⟨key, name, body⟩ := con
  cases body with
  | naked uses =>
    simp only [outline, labels_leaf]
    rfl
  | record fields =>
    simp only [outline, labels_mk, flatMap_labels_map RecordField.labels_outline]
    rfl

theorem Method.labels_outline (method : Method) :
    method.outline.labels = method.labels.map Label.markup := by
  rw [outline, labels_leaf]
  rfl

theorem Decl.labels_outline (decl : Decl) : decl.outline.labels = decl.labels.map Label.markup := by
  cases decl with
  | data type =>
    rw [outline, labels_mk, flatMap_labels_map Constructor.labels_outline]
    rfl
  | value binding =>
    rw [outline, labels_leaf]
    rfl
  | typeClass cls =>
    rw [outline, labels_mk, flatMap_labels_map Method.labels_outline]
    rfl

namespace Module

theorem labels_importsOutline (imports : List String) :
    (importsOutline imports).flatMap Outline.labels =
      (importsLabels imports).map Label.markup := by
  unfold importsOutline importsLabels
  split
  · rfl
  · have hnames : ((imports.map fun name => Outline.leaf (escapeMarkup name)).flatMap
        Outline.labels) = imports.map escapeMarkup := by
      rw [List.flatMap_map, List.map_eq_flatMap]
      exact List.flatMap_congr fun name _ => labels_leaf (escapeMarkup name)
    rw [List.flatMap_singleton, labels_mk, hnames]
    simp [Label.markup, Function.comp_def]

theorem labels_outline (module : Module) :
    module.outline.labels = module.labels.map Label.markup := by
  rw [outline, labels_mk, List.flatMap_append, labels_importsOutline,
    flatMap_labels_map Decl.labels_outline, ← List.map_append]
  rfl

end Module

end Labels

/-- A label shows its names as they are just when each of them is verbatim before what follows it. -/
theorem Label.visibleChars_markup_iff (label : Label) :
    visibleChars false 0 label.markup.toList = label.text.toList ↔ label.IsVerbatim := by
  have hone (name : String) :
      (∀ part ∈ [(Follower.text, name)], Text.IsVerbatim part.1 part.2) ↔
        Text.IsVerbatim .text name :=
    List.forall_mem_singleton
  cases label with
  | title name path =>
    rw [markup, text, visibleChars_titleLabel]
    simp [IsVerbatim, names]
  | imports =>
    have himports : IsLiteral "imports" := by simp [IsLiteral]
    rw [markup, text, himports.visibleChars_eq]
    simp [IsVerbatim, names]
  | imported name => exact (visibleChars_escapeMarkup name).trans (hone name).symm
  | decl keyword name key =>
    exact (visibleChars_declLabel keyword.isLiteral_text name key).trans (hone name).symm
  | method name key => exact (visibleChars_entityLabel name key).trans (hone name).symm
  | record name key => exact (visibleChars_recordLabel name key).trans (hone name).symm
  | withUses name key uses => exact (visibleChars_usesLabel name key uses).trans (hone name).symm

section Controls

variable {s t : String}

/-- Holds no character that is never shown. -/
def IsShowable (s : String) : Prop := ∀ c ∈ s.toList, isDeviceControl c = false

theorem IsShowable.append (hs : IsShowable s) (ht : IsShowable t) : IsShowable (s ++ t) := by
  intro c hc
  rw [String.toList_append, List.mem_append] at hc
  exact hc.elim (hs c) (ht c)

theorem IsShowable.escapeMarkup (hs : IsShowable s) : IsShowable (escapeMarkup s) := by
  intro c hc
  rcases Text.mem_escapeMarkup hc with rfl | hmem
  · rfl
  · exact hs c hmem

theorem isShowable_of_isLiteral (hs : IsLiteral s) : IsShowable s := by
  intro c hc
  have hne : ∀ d : Char, d < ' ' → c ≠ d := by
    rintro d hd rfl
    exact absurd (hs c hc).1 (Char.not_le.mpr hd)
  simp [isDeviceControl, hne]

theorem isShowable_entityLabel (key : SymbolKey) (hs : IsShowable s) :
    IsShowable (entityLabel s key) := by
  have hspace : IsShowable " " := by simp [IsShowable, isDeviceControl]
  exact (hs.escapeMarkup.append hspace).append (isShowable_of_isLiteral key.isLiteral_text)

theorem Label.isShowable_markup (label : Label) (hnames : ∀ name ∈ label.names, IsShowable name.2) :
    IsShowable label.markup := by
  have hfixed : ∀ t ∈ ["[cyan]", "[/cyan] (", ")", "imports", "[bold]", "[/bold] ", " -> ",
      " \x7brecord\x7d"], IsShowable t := by
    simp [IsShowable, isDeviceControl]
  have hone {name : String} (h : ∀ part ∈ [(Follower.text, name)], IsShowable part.2) :
      IsShowable name :=
    h (.text, name) List.mem_cons_self
  cases label with
  | title name path =>
    have hname : IsShowable name := hnames (.tag, name) (by simp [names])
    have hpath : IsShowable path := hnames (.text, path) (by simp [names])
    exact ((((hfixed _ (by simp)).append hname.escapeMarkup).append (hfixed _ (by simp))).append
      hpath.escapeMarkup).append (hfixed _ (by simp))
  | imports => exact hfixed "imports" (by simp)
  | imported name => exact (hone hnames).escapeMarkup
  | decl keyword name key =>
    have hkeyword : IsShowable keyword.text := isShowable_of_isLiteral keyword.isLiteral_text
    have hentity := isShowable_entityLabel key (hone hnames)
    exact (((hfixed _ (by simp)).append hkeyword).append (hfixed _ (by simp))).append hentity
  | method name key => exact isShowable_entityLabel key (hone hnames)
  | record name key =>
    have hentity := isShowable_entityLabel key (hone hnames)
    exact hentity.append (hfixed _ (by simp))
  | withUses name key uses =>
    have hentity := isShowable_entityLabel key (hone hnames)
    exact (hentity.append (hfixed _ (by simp))).append
      (isShowable_of_isLiteral (SymbolKey.isLiteral_listText uses))

theorem Label.visibleText_eq_iff (label : Label) (hnames : ∀ name ∈ label.names, IsShowable name.2) :
    visibleText label.markup = label.text ↔ label.IsVerbatim := by
  rw [Text.visibleText_eq_iff (label.isShowable_markup hnames), visibleChars_markup_iff]

end Controls

namespace Module

/-- The labels of a module are fixed texts around names, and a label shows its names as they are just
when each is verbatim before what follows it. Names without backslashes always are. -/
theorem labels_showNames_iff (module : Module) :
    module.outline.labels = module.labels.map Label.markup ∧
      ∀ label ∈ module.labels, (∀ name ∈ label.names, IsShowable name.2) →
        (visibleText label.markup = label.text ↔ label.IsVerbatim) ∧
          ((∀ name ∈ label.names, '\\' ∉ name.2.toList) →
            visibleText label.markup = label.text) := by
  refine ⟨labels_outline module, ?_⟩
  intro label _ hnames
  have hiff := label.visibleText_eq_iff hnames
  refine ⟨hiff, ?_⟩
  intro hbackslash
  apply hiff.mpr
  intro name hname
  exact Text.isVerbatim_of_notMem name.1 (hbackslash name hname)

/-- A module whose names look like tags, one of them escaped. -/
def bracketed : Module where
  name := "[red]"
  path := "[/cyan].hs"
  imports := []
  decls := [.data ⟨⟨1⟩, "T", [⟨⟨2⟩, ":\\[b]", .naked []⟩]⟩]

theorem labels_showNames_iff_bracketed :
    bracketed.labels = [.title "[red]" "[/cyan].hs", .decl .data "T" ⟨1⟩,
        .withUses ":\\[b]" ⟨2⟩ []] ∧
      visibleText (Label.markup (.title "[red]" "[/cyan].hs")) = "[red] ([/cyan].hs)" ∧
        visibleText (Label.markup (.withUses ":\\[b]" ⟨2⟩ [])) = ":\\[b] #2 -> -" := by
  have hlabels : bracketed.labels = [.title "[red]" "[/cyan].hs", .decl .data "T" ⟨1⟩,
      .withUses ":\\[b]" ⟨2⟩ []] := rfl
  obtain ⟨-, hshown⟩ := labels_showNames_iff bracketed
  refine ⟨hlabels, ?_, ?_⟩
  · obtain ⟨-, htitle⟩ := hshown (.title "[red]" "[/cyan].hs") (by simp [hlabels])
      (by simp [Label.names, IsShowable, isDeviceControl])
    exact htitle (by simp [Label.names])
  · obtain ⟨hiff, -⟩ := hshown (.withUses ":\\[b]" ⟨2⟩ []) (by simp [hlabels])
      (by simp [Label.names, IsShowable, isDeviceControl])
    apply hiff.mpr
    intro name hname
    obtain rfl := List.mem_singleton.mp hname
    constructor
    · intro after hafter
      have hafter : after = ['b', ']'] := by simpa [List.suffix_cons_iff] using hafter
      rw [hafter]
      decide
    · have hend : endBackslashes ":\\[b]".toList ≠ 1 := by decide
      exact hend

/-- A module with an operator that ends with a backslash. -/
def slashed : Module where
  name := "M"
  path := "M.hs"
  imports := []
  decls := [.data ⟨⟨1⟩, "T", [⟨⟨2⟩, ":/\\", .naked []⟩]⟩]

/-- The backslash at the end of an operator is shown twice. -/
theorem exists_label_with_doubled_backslash :
    ∃ label ∈ slashed.labels, (∀ name ∈ label.names, IsShowable name.2) ∧
      label.text = ":/\\ #2 -> -" ∧ visibleText label.markup = ":/\\\\ #2 -> -" := by
  refine ⟨.withUses ":/\\" ⟨2⟩ [], by decide, ?_, ?_, ?_⟩
  · simp [Label.names, IsShowable, isDeviceControl]
  · decide +kernel
  · decide +kernel

end Module

end DeclGraph
