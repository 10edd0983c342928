import DeclGraph.Proofs.Outline.Label
import DeclGraph.Proofs.Outline.Layout

/-!
The dump of a module shows all of it.

An outline is cut into the lines of its branches, whatever its labels are, and the label of each
branch tells what it shows. So the parts of a module are known by their lines, from the fields of
records up to the module.
-/

namespace DeclGraph

open Outline (branchLines lines_of_labelLines branchLines_inj eq_of_map_lines)
open Text (IsPlain IsLiteral labelLines escapeMarkup)

theorem RecordField.lines_outline (field : RecordField) (hname : IsPlain field.name) :
    field.outline.lines = [usesText field.name field.key field.uses] := by
  rw [outline, Outline.leaf, lines_of_labelLines (labelLines_usesLabel hname),
    Outline.branchLines_nil]

theorem RecordField.eq_of_lines {field field' : RecordField} (hname : IsPlain field.name)
    (hname' : IsPlain field'.name) (h : field.outline.lines = field'.outline.lines) :
    field = field' := by
  rw [lines_outline field hname, lines_outline field' hname', List.singleton_inj] at h
  obtain ⟨hn, hk, hu⟩ := usesText_inj h
  rw [RecordField.mk.injEq]
  exact ⟨hk, hn, hu⟩

/-- The texts of a constructor that are shown as they are. -/
def Constructor.texts (con : Constructor) : List String :=
  match con.body with
  | .naked _ => [con.name]
  | .record fields => con.name :: fields.map RecordField.name

theorem Constructor.name_mem_texts (con : Constructor) : con.name ∈ con.texts := by
  unfold texts
  split
  · exact List.mem_singleton_self _
  · exact List.mem_cons_self

section Constructors

variable {name : String} {key : SymbolKey} {uses : Uses} {fields : List RecordField}

theorem Constructor.lines_naked (hname : IsPlain name) :
    (outline ⟨key, name, .naked uses⟩).lines = [usesText name key uses] := by
  simp only [outline]
  rw [Outline.leaf, lines_of_labelLines (labelLines_usesLabel hname), Outline.branchLines_nil]

theorem Constructor.lines_record (hname : IsPlain name) :
    (outline ⟨key, name, .record fields⟩).lines =
      recordText name key :: branchLines (fields.map RecordField.outline) := by
  simp only [outline]
  rw [lines_of_labelLines (labelLines_recordLabel hname)]

end Constructors

theorem Constructor.eq_of_lines {con con' : Constructor} (hcon : ∀ text ∈ con.texts, IsPlain text)
    (hcon' : ∀ text ∈ con'.texts, IsPlain text) (h : con.outline.lines = con'.outline.lines) :
    con = con' := by
  have hname := hcon con.name con.name_mem_texts
  have hname' := hcon' con'.name con'.name_mem_texts
  obtain ⟨key, name, body⟩ := con
  obtain ⟨key', name', body'⟩ := con'
  cases body with
  | naked uses =>
    cases body' with
    | naked uses' =>
      rw [lines_naked hname, lines_naked hname', List.singleton_inj] at h
      obtain ⟨rfl, rfl, rfl⟩ := usesText_inj h
      rfl
    | record fields' =>
      rw [lines_naked hname, lines_record hname'] at h
      exact absurd (List.cons.inj h).1 usesText_ne_recordText
  | record fields =>
    cases body' with
    | naked uses' =>
      rw [lines_record hname, lines_naked hname'] at h
      exact absurd (List.cons.inj h).1.symm usesText_ne_recordText
    | record fields' =>
      rw [lines_record hname, lines_record hname', List.cons.injEq] at h
      obtain ⟨rfl, rfl⟩ := recordText_inj h.1
      have hfields : fields = fields' := by
        apply eq_of_map_lines _ (branchLines_inj h.2)
        intro field hfield field' hfield'
        apply RecordField.eq_of_lines
        · exact hcon _ (List.mem_cons_of_mem _ (List.mem_map_of_mem hfield))
        · exact hcon' _ (List.mem_cons_of_mem _ (List.mem_map_of_mem hfield'))
      rw [hfields]

theorem Method.lines_outline (method : Method) (hname : IsPlain method.name) :
    method.outline.lines = [entityText method.name method.key] := by
  rw [outline, Outline.leaf, lines_of_labelLines (labelLines_entityLabel hname),
    Outline.branchLines_nil]

theorem Method.eq_of_lines {method method' : Method} (hname : IsPlain method.name)
    (hname' : IsPlain method'.name) (h : method.outline.lines = method'.outline.lines) :
    method = method' := by
  rw [lines_outline method hname, lines_outline method' hname', List.singleton_inj] at h
  obtain ⟨hn, hk⟩ := entityText_inj h
  rw [Method.mk.injEq]
  exact ⟨hk, hn⟩

def Decl.texts : Decl → List String
  | .data type => type.name :: type.constructors.flatMap Constructor.texts
  | .value binding => [binding.name]
  | .typeClass cls => cls.name :: cls.methods.map Method.name

theorem Decl.lines_data {type : DataType} (hname : IsPlain type.name) :
    (outline (.data type)).lines =
      declText "data" type.name type.key ::
        branchLines (type.constructors.map Constructor.outline) := by
  have hkeyword : IsLiteral "data" := by simp [IsLiteral]
  rw [outline, lines_of_labelLines (labelLines_declLabel hkeyword hname)]

theorem Decl.lines_typeClass {cls : TypeClass} (hname : IsPlain cls.name) :
    (outline (.typeClass cls)).lines =
      declText "class" cls.name cls.key :: branchLines (cls.methods.map Method.outline) := by
  have hkeyword : IsLiteral "class" := by simp [IsLiteral]
  rw [outline, lines_of_labelLines (labelLines_declLabel hkeyword hname)]

theorem DataType.eq_of_lines {type type' : DataType}
    (htype : ∀ text ∈ (Decl.data type).texts, IsPlain text)
    (htype' : ∀ text ∈ (Decl.data type').texts, IsPlain text)
    (h : (Decl.data type).outline.lines = (Decl.data type').outline.lines) : type = type' := by
  rw [Decl.lines_data (htype _ List.mem_cons_self), Decl.lines_data (htype' _ List.mem_cons_self),
    List.cons.injEq] at h
  obtain ⟨hname, hkey⟩ := declText_inj h.1
  have hconstructors : type.constructors = type'.constructors := by
    apply eq_of_map_lines _ (branchLines_inj h.2)
    intro con hcon con' hcon'
    apply Constructor.eq_of_lines
    · intro text htext
      exact htype _ (List.mem_cons_of_mem _ (List.mem_flatMap.mpr ⟨con, hcon, htext⟩))
    · intro text htext
      exact htype' _ (List.mem_cons_of_mem _ (List.mem_flatMap.mpr ⟨con', hcon', htext⟩))
  rw [DataType.mk.injEq]
  exact ⟨hkey, hname, hconstructors⟩

theorem TypeClass.eq_of_lines {cls cls' : TypeClass}
    (hcls : ∀ text ∈ (Decl.typeClass cls).texts, IsPlain text)
    (hcls' : ∀ text ∈ (Decl.typeClass cls').texts, IsPlain text)
    (h : (Decl.typeClass cls).outline.lines = (Decl.typeClass cls').outline.lines) :
    cls = cls' := by
  rw [Decl.lines_typeClass (hcls _ List.mem_cons_self),
    Decl.lines_typeClass (hcls' _ List.mem_cons_self), List.cons.injEq] at h
  obtain ⟨hname, hkey⟩ := declText_inj h.1
  have hmethods : cls.methods = cls'.methods := by
    apply eq_of_map_lines _ (branchLines_inj h.2)
    intro method hmethod method' hmethod'
    apply Method.eq_of_lines
    · exact hcls _ (List.mem_cons_of_mem _ (List.mem_map_of_mem hmethod))
    · exact hcls' _ (List.mem_cons_of_mem _ (List.mem_map_of_mem hmethod'))
  rw [TypeClass.mk.injEq]
  exact ⟨hkey, hname, hmethods⟩

/-- A declaration of which the dump shows all parts. The uses of a binding are not shown. -/
structure Decl.IsDumpable (decl : Decl) : Prop where
  plain : ∀ text ∈ decl.texts, IsPlain text
  notValue : ∀ binding, decl ≠ .value binding

theorem Decl.eq_of_lines {decl decl' : Decl} (hdecl : decl.IsDumpable) (hdecl' : decl'.IsDumpable)
    (h : decl.outline.lines = decl'.outline.lines) : decl = decl' := by
  have hplain := hdecl.plain
  have hplain' := hdecl'.plain
  cases decl with
  | value binding => exact absurd rfl (hdecl.notValue binding)
  | data type =>
    cases decl' with
    | value binding => exact absurd rfl (hdecl'.notValue binding)
    | data type' => rw [DataType.eq_of_lines hplain hplain' h]
    | typeClass cls' =>
      rw [lines_data (hplain _ List.mem_cons_self), lines_typeClass (hplain' _ List.mem_cons_self)]
        at h
      exact absurd (List.cons.inj h).1 declText_data_ne_class
  | typeClass cls =>
    cases decl' with
    | value binding => exact absurd rfl (hdecl'.notValue binding)
    | data type' =>
      rw [lines_typeClass (hplain _ List.mem_cons_self), lines_data (hplain' _ List.mem_cons_self)]
        at h
      exact absurd (List.cons.inj h).1.symm declText_data_ne_class
    | typeClass cls' => rw [TypeClass.eq_of_lines hplain hplain' h]

namespace Module

/-- The texts of a module that are shown as they are. -/
def texts (module : Module) : List String :=
  module.name :: module.path :: (module.imports ++ module.decls.flatMap Decl.texts)

/-- A module of which the dump shows all parts. The title ends its name with a space. -/
structure IsDumpable (module : Module) : Prop where
  plain : ∀ text ∈ module.texts, IsPlain text
  spaceless : ' ' ∉ module.name.toList
  notValue : ∀ binding, .value binding ∉ module.decls

theorem IsDumpable.decl {module : Module} (h : module.IsDumpable) {decl : Decl}
    (hdecl : decl ∈ module.decls) : decl.IsDumpable where
  plain text htext := by
    have hmem : text ∈ module.decls.flatMap Decl.texts := List.mem_flatMap.mpr ⟨decl, hdecl, htext⟩
    exact h.plain text (by simp only [texts, List.mem_cons, List.mem_append, hmem, or_true])
  notValue binding hvalue := h.notValue binding (hvalue ▸ hdecl)

theorem IsDumpable.imports {module : Module} (h : module.IsDumpable) {name : String}
    (hname : name ∈ module.imports) : IsPlain name :=
  h.plain name (by simp only [texts, List.mem_cons, List.mem_append, hname, true_or, or_true])

theorem lines_outline {module : Module} (h : module.IsDumpable) :
    module.outline.lines = titleText module.name module.path ::
      branchLines (importsOutline module.imports ++ module.decls.map Decl.outline) := by
  have hname : IsPlain module.name := h.plain _ (by simp [texts])
  have hpath : IsPlain module.path := h.plain _ (by simp [texts])
  rw [outline, lines_of_labelLines (labelLines_titleLabel hname hpath)]

/-- The branch of a module's outline that shows its imports. -/
def importsBranch (names : List String) : Outline :=
  .mk "imports" (names.map fun name => .leaf (escapeMarkup name))

theorem lines_importsBranch (names : List String) :
    (importsBranch names).lines =
      "imports" :: branchLines (names.map fun name => .leaf (escapeMarkup name)) := by
  have hlabel : IsLiteral "imports" := by simp [IsLiteral]
  exact lines_of_labelLines hlabel.labelLines_eq

theorem lines_importName {name : String} (hname : IsPlain name) :
    (Outline.leaf (escapeMarkup name)).lines = [name] := by
  rw [Outline.leaf, lines_of_labelLines (labelLines_escapeMarkup hname), Outline.branchLines_nil]

theorem eq_of_lines_importsBranch {names names' : List String}
    (hnames : ∀ name ∈ names, IsPlain name) (hnames' : ∀ name ∈ names', IsPlain name)
    (h : (importsBranch names).lines = (importsBranch names').lines) : names = names' := by
  rw [lines_importsBranch, lines_importsBranch, List.cons.injEq] at h
  apply eq_of_map_lines _ (branchLines_inj h.2)
  intro name hname name' hname' heq
  rw [lines_importName (hnames name hname), lines_importName (hnames' name' hname')] at heq
  exact List.singleton_inj.mp heq

/-- No declaration is shown under the label of the imports. -/
theorem lines_decl_ne_lines_importsBranch {decl : Decl} (hdecl : decl.IsDumpable)
    (names : List String) : decl.outline.lines ≠ (importsBranch names).lines := by
  intro h
  rw [lines_importsBranch] at h
  cases decl with
  | value binding => exact hdecl.notValue binding rfl
  | data type =>
    rw [Decl.lines_data (hdecl.plain _ List.mem_cons_self), List.cons.injEq] at h
    have hchars := congrArg String.toList h.1
    simp [declText] at hchars
  | typeClass cls =>
    rw [Decl.lines_typeClass (hdecl.plain _ List.mem_cons_self), List.cons.injEq] at h
    have hchars := congrArg String.toList h.1
    simp [declText] at hchars

section Branches

variable {module module' : Module}

theorem eq_of_map_lines_decls (h : module.IsDumpable) (h' : module'.IsDumpable)
    (hlines : (module.decls.map Decl.outline).map Outline.lines =
      (module'.decls.map Decl.outline).map Outline.lines) : module.decls = module'.decls := by
  apply eq_of_map_lines _ hlines
  intro decl hdecl decl' hdecl'
  exact Decl.eq_of_lines (h.decl hdecl) (h'.decl hdecl')

theorem map_lines_decls_ne_cons (h : module.IsDumpable) (names : List String)
    (rest : List (List String)) :
    (module.decls.map Decl.outline).map Outline.lines ≠ (importsBranch names).lines :: rest := by
  intro heq
  cases hdecls : module.decls with
  | nil => simp [hdecls] at heq
  | cons decl decls =>
    rw [hdecls, List.map_cons, List.map_cons, List.cons.injEq] at heq
    have hdecl : decl ∈ module.decls := hdecls ▸ List.mem_cons_self
    exact lines_decl_ne_lines_importsBranch (h.decl hdecl) names heq.1

theorem eq_of_branchLines (h : module.IsDumpable) (h' : module'.IsDumpable)
    (hlines : branchLines (importsOutline module.imports ++ module.decls.map Decl.outline) =
      branchLines (importsOutline module'.imports ++ module'.decls.map Decl.outline)) :
    module.imports = module'.imports ∧ module.decls = module'.decls := by
  have himports (names : List String) (hne : names ≠ []) :
      importsOutline names = [importsBranch names] := by
    simp [importsOutline, importsBranch, hne]
  have hmap := branchLines_inj hlines
  by_cases hnone : module.imports = []
  · by_cases hnone' : module'.imports = []
    · rw [hnone, hnone'] at hmap
      exact ⟨hnone.trans hnone'.symm, eq_of_map_lines_decls h h' hmap⟩
    · rw [hnone, himports _ hnone'] at hmap
      exact absurd hmap (map_lines_decls_ne_cons h _ _)
  · by_cases hnone' : module'.imports = []
    · rw [hnone', himports _ hnone] at hmap
      exact absurd hmap.symm (map_lines_decls_ne_cons h' _ _)
    · rw [himports _ hnone, himports _ hnone'] at hmap
      obtain ⟨himport, hdecls⟩ := List.cons.inj hmap
      exact ⟨eq_of_lines_importsBranch (fun _ => h.imports) (fun _ => h'.imports) himport,
        eq_of_map_lines_decls h h' hdecls⟩

theorem eq_of_dumpLines (h : module.IsDumpable) (h' : module'.IsDumpable)
    (hlines : dumpLines [module] = dumpLines [module']) : module = module' := by
  have houtline : module.outline.lines = module'.outline.lines := by
    simpa [dumpLines] using hlines
  rw [lines_outline h, lines_outline h', List.cons.injEq] at houtline
  obtain ⟨hname, hpath⟩ := titleText_inj h.spaceless h'.spaceless houtline.1
  obtain ⟨himports, hdecls⟩ := eq_of_branchLines h h' houtline.2
  rw [Module.mk.injEq]
  exact ⟨hname, hpath, himports, hdecls⟩

end Branches

/-- Modules with the same dump are the same, so that a dump can be decoded. -/
theorem dumpLines_lossless :
    (∀ module module' : Module, module.IsDumpable → module'.IsDumpable →
      dumpLines [module] = dumpLines [module'] → module = module') ∧
      ∃ decode : List String → Option Module,
        ∀ module : Module, module.IsDumpable → decode (dumpLines [module]) = some module := by
  let dump (module : { module : Module // module.IsDumpable }) : List String := dumpLines [module.1]
  have hinj : Function.Injective dump := by
    intro module module' h
    exact Subtype.ext (eq_of_dumpLines module.2 module'.2 h)
  refine ⟨fun module module' => eq_of_dumpLines,
    fun lines => (Function.partialInv dump lines).map Subtype.val, ?_⟩
  intro module hmodule
  have hdecode : Function.partialInv dump (dumpLines [module]) = some ⟨module, hmodule⟩ :=
    Function.partialInv_left hinj ⟨module, hmodule⟩
  simp only [hdecode, Option.map_some]

/-- A module whose texts look like tags, guides, keys and lists of uses. -/
def disguised (body : ConstructorBody) : Module :=
  ⟨"[/cyan]M", "x) ([bold", ["├── [imports]", "imports"],
    [.data ⟨⟨1⟩, "T #2 -> -",
      [⟨⟨2⟩, "[a]C", .record [⟨⟨3⟩, "│   f \x7brecord\x7d", [⟨1⟩, ⟨-4⟩]⟩]⟩, ⟨⟨5⟩, "D", body⟩]⟩,
      .typeClass ⟨⟨6⟩, "K #1", [⟨⟨7⟩, "└── m"⟩]⟩]⟩

theorem dumpLines_lossless_disguised :
    ((disguised (.naked [])).IsDumpable ∧ (disguised (.record [])).IsDumpable ∧
      dumpLines [disguised (.naked [])] ≠ dumpLines [disguised (.record [])]) ∧
      ∃ decode : List String → Option Module,
        decode (dumpLines [disguised (.record [])]) = some (disguised (.record [])) := by
  have hdumpable (body) (hbody : body = .naked [] ∨ body = .record []) :
      (disguised body).IsDumpable := by
    refine ⟨?_, by simp [disguised], by simp [disguised]⟩
    rcases hbody with rfl | rfl
    · simp [disguised, texts, Decl.texts, Constructor.texts, IsPlain]
    · simp [disguised, texts, Decl.texts, Constructor.texts, IsPlain]
  have hnaked := hdumpable (.naked []) (.inl rfl)
  have hrecord := hdumpable (.record []) (.inr rfl)
  obtain ⟨hsame, decode, hdecode⟩ := dumpLines_lossless
  refine ⟨⟨hnaked, hrecord, ?_⟩, decode, hdecode _ hrecord⟩
  intro h
  have heq := hsame _ _ hnaked hrecord h
  simp [disguised] at heq

end Module

end DeclGraph
