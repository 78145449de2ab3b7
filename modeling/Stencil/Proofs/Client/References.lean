import Mathlib.Data.List.Forall2
import Mathlib.Logic.Function.Iterate
import Stencil.Proofs.Client.ClassNames

/-!
# References to models

A model is mentioned by a reference, by a type or by the type of elements, as a parent and among
sub types. Each of these is written as the one class that the table of names gives the model,
whatever had to be done to its name, with the lists around it in the notation of the language.

## Main definitions

* `Kind.Refers name kind depth`: a kind is the model `name` under `depth` lists
* `Declaration.Mentions name type reference items depth`: declared members mention a model
* `Client.ShowsReferences`: all that mentions a model shows one class

## Main results

* `Kind.refers_resolve_iff`: a kind refers to what the declared members mention
* `Client.showsReferences_of_mem`: all that mentions a declared model shows its class
-/

namespace Stencil

/-! ## Kinds that refer to models -/

/-- A kind is the model of a name, under as many lists as `depth` says. -/
inductive Kind.Refers (name : String) : Kind → (depth : Nat) → Prop
  | model : Refers name (.model name) 0
  | list {element : Kind} {depth : Nat} :
    Refers name element depth → Refers name (.list element) (depth + 1)

/-- Whether a type name names a model. -/
def Kind.IsModelName (name : String) : Prop :=
  name ≠ "void" ∧ name ≠ "array" ∧ name ∉ Kind.primitiveNames

/-- The declared members of a value mention a model, under as many lists as `depth` says. -/
inductive Declaration.Mentions (name : String) :
    (type reference : Option String) → Option ItemType → (depth : Nat) → Prop
  | reference {type items} : Mentions name type (some name) items 0
  | type {items} : Kind.IsModelName name → Mentions name (some name) none items 0
  | itemReference {items : ItemType} :
    items.reference = some name → Mentions name (some "array") none (some items) 1
  | itemType {items : ItemType} : items.reference = none → items.type = some name →
    Kind.IsModelName name → Mentions name (some "array") none (some items) 1

namespace Kind

variable {name : String}

theorem refers_model_iff {other : String} {depth : Nat} :
    (model other).Refers name depth ↔ other = name ∧ depth = 0 := by
  constructor
  · rintro ⟨⟩
    exact ⟨rfl, rfl⟩
  · rintro ⟨rfl, rfl⟩
    exact .model

theorem refers_list_iff {element : Kind} {depth : Nat} :
    (list element).Refers name depth ↔ ∃ inner, element.Refers name inner ∧ depth = inner + 1 := by
  constructor
  · rintro ⟨⟩
    exact ⟨_, ‹_›, rfl⟩
  · rintro ⟨inner, h, rfl⟩
    exact .list h

theorem not_refers_primitive {other : String} {format : Option String} {depth : Nat} :
    ¬ (primitive other format).Refers name depth := nofun

theorem not_refers_void {depth : Nat} : ¬ void.Refers name depth := nofun

theorem not_refers_unknown {depth : Nat} : ¬ unknown.Refers name depth := nofun

theorem ofType_of_ne {other : String} {format : Option String} {element : Kind}
    (hvoid : other ≠ "void") (harray : other ≠ "array") :
    ofType (some other) format none element =
      if other ∈ primitiveNames then .primitive other format else .model other := by
  unfold ofType
  split
  · contradiction
  · contradiction
  · rename_i heq
    exact absurd (Option.some.inj heq) hvoid
  · rename_i heq
    exact absurd (Option.some.inj heq) harray
  · rename_i heq
    rw [Option.some.inj heq]

/-- A type description refers to a model by its reference or else by its type, and to what its
elements refer to if it is an array. -/
theorem refers_ofType_iff {type format reference : Option String} {element : Kind}
    {depth : Nat} :
    (ofType type format reference element).Refers name depth ↔
      reference = some name ∧ depth = 0 ∨
      reference = none ∧ type = some name ∧ IsModelName name ∧ depth = 0 ∨
      reference = none ∧ type = some "array" ∧
        ∃ inner, element.Refers name inner ∧ depth = inner + 1 := by
  cases reference with
  | some other => simp [ofType, refers_model_iff]
  | none =>
    cases type with
    | none => simp [ofType, not_refers_unknown]
    | some other =>
      -- Two type names have a meaning of their own; behind them come the primitive ones.
      by_cases hvoid : other = "void"
      · subst hvoid
        have hname : "void" = name → ¬ IsModelName name := fun heq h => h.1 heq.symm
        simp +contextual [ofType, not_refers_void, hname]
      · by_cases harray : other = "array"
        · subst harray
          have hname : "array" = name → ¬ IsModelName name := fun heq h => h.2.1 heq.symm
          simp +contextual [ofType, refers_list_iff, hname]
        · rw [ofType_of_ne hvoid harray]
          by_cases hprimitive : other ∈ primitiveNames
          · have hname : other = name → ¬ IsModelName name :=
              fun heq h => h.2.2 (heq ▸ hprimitive)
            simp +contextual [hprimitive, not_refers_primitive, harray, hname]
          · have hname : other = name → IsModelName name :=
              fun heq => heq ▸ ⟨hvoid, harray, hprimitive⟩
            simp +contextual [hprimitive, refers_model_iff, harray, hname]

/-- Element descriptions do not nest, so what they mention stands under no further list. -/
theorem refers_ofItems_iff {items : Option ItemType} {depth : Nat} :
    (ofItems items).Refers name depth ↔ ∃ item, items = some item ∧ depth = 0 ∧
      (item.reference = some name ∨
        item.reference = none ∧ item.type = some name ∧ IsModelName name) := by
  cases items with
  | none => simp [ofItems, not_refers_unknown]
  | some item =>
    simp only [ofItems, refers_ofType_iff, not_refers_unknown, Option.some.injEq]
    constructor
    · rintro (⟨h, rfl⟩ | ⟨h, htype, hname, rfl⟩ | ⟨-, -, inner, h, -⟩)
      · exact ⟨item, rfl, rfl, Or.inl h⟩
      · exact ⟨item, rfl, rfl, Or.inr ⟨h, htype, hname⟩⟩
      · exact h.elim
    · rintro ⟨_, rfl, rfl, h | ⟨h, htype, hname⟩⟩
      · exact Or.inl ⟨h, rfl⟩
      · exact Or.inr (Or.inl ⟨h, htype, hname, rfl⟩)

/-- **A kind refers** to what the declared members mention. -/
theorem refers_resolve_iff {type format reference : Option String} {items : Option ItemType}
    {depth : Nat} :
    (resolve type format reference items).Refers name depth ↔
      Declaration.Mentions name type reference items depth := by
  simp only [resolve, refers_ofType_iff, refers_ofItems_iff]
  constructor
  · rintro (⟨rfl, rfl⟩ | ⟨rfl, rfl, hname, rfl⟩ |
      ⟨rfl, rfl, _, ⟨item, rfl, rfl, h | ⟨h, htype, hname⟩⟩, rfl⟩)
    · exact .reference
    · exact .type hname
    · exact .itemReference h
    · exact .itemType h htype hname
  · rintro (_ | hname | h | ⟨h, htype, hname⟩)
    · exact Or.inl ⟨rfl, rfl⟩
    · exact Or.inr (Or.inl ⟨rfl, rfl, hname, rfl⟩)
    · exact Or.inr (Or.inr ⟨rfl, rfl, 0, ⟨_, rfl, rfl, Or.inl h⟩, rfl⟩)
    · exact Or.inr (Or.inr ⟨rfl, rfl, 0, ⟨_, rfl, rfl, Or.inr ⟨h, htype, hname⟩⟩, rfl⟩)

end Kind

/-! ## What parts of a declaration mention -/

namespace Declaration

/-- A property mentions a model. -/
def Property.Mentions (property : Property) (name : String) (depth : Nat) : Prop :=
  Declaration.Mentions name property.type property.reference (property.items.map (·.itemType))
    depth

/-- What an operation returns mentions a model. -/
def Operation.Mentions (operation : Operation) (name : String) (depth : Nat) : Prop :=
  Declaration.Mentions name operation.type none (operation.items.map (·.itemType)) depth

/-- A parameter mentions a model, in any case under a list if it may be given several times. -/
def Parameter.Mentions (parameter : Parameter) (name : String) (depth : Nat) : Prop :=
  ∃ inner, Declaration.Mentions name parameter.type none (parameter.items.map (·.itemType)) inner ∧
    depth = if parameter.allowMultiple then max inner 1 else inner

end Declaration

namespace Client

variable {name : String} {depth : Nat}

theorem refers_propertyKind_iff {property : Declaration.Property} :
    (propertyKind property).Refers name depth ↔ property.Mentions name depth :=
  Kind.refers_resolve_iff

theorem refers_returnKind_iff {operation : Declaration.Operation} :
    (returnKind operation).Refers name depth ↔ operation.Mentions name depth := by
  unfold returnKind
  split
  · rename_i htype
    simp only [Kind.not_refers_void, false_iff, Declaration.Operation.Mentions, htype]
    exact nofun
  · rename_i type htype
    rw [Kind.refers_resolve_iff, Declaration.Operation.Mentions, htype]

theorem isList_eq_of_refers {kind : Kind} (h : kind.Refers name depth) :
    kind.isList = decide (0 < depth) := by
  cases h with
  | model => rfl
  | list h => simp [Kind.isList]

/-- A list that may be given several times stays as it is. -/
theorem refers_parameterKind_iff {parameter : Declaration.Parameter} :
    (parameterKind parameter).Refers name depth ↔ parameter.Mentions name depth := by
  simp only [Declaration.Parameter.Mentions,
    ← @Kind.refers_resolve_iff _ _ parameter.format _ _ _]
  unfold parameterKind
  generalize Kind.resolve parameter.type parameter.format none _ = kind
  cases parameter.allowMultiple with
  | false => simp
  | true =>
    cases hlist : kind.isList with
    -- a list already, so that the model stands under one at least
    | true =>
      have hmax : ∀ inner, kind.Refers name inner → max inner 1 = inner := by
        intro inner h
        rw [isList_eq_of_refers h] at hlist
        exact Nat.max_eq_left (of_decide_eq_true hlist)
      simp only [hlist, Bool.not_true, Bool.and_false, Bool.false_eq_true, if_false, if_true]
      constructor
      · exact fun h => ⟨depth, h, (hmax depth h).symm⟩
      · rintro ⟨inner, h, rfl⟩
        rwa [hmax inner h]
    -- no list, so that the model is the kind itself
    | false =>
      have hzero : ∀ inner, kind.Refers name inner → inner = 0 := by
        intro inner h
        rw [isList_eq_of_refers h] at hlist
        exact Nat.eq_zero_of_not_pos (of_decide_eq_false hlist)
      simp only [hlist, Bool.not_false, Bool.and_true, if_true]
      refine Kind.refers_list_iff.trans (exists_congr fun inner => and_congr_right fun h => ?_)
      rw [hzero inner h]
      rfl

theorem typeOf_of_refers {language : Language} {names : NameTable} {kind : Kind}
    (h : kind.Refers name depth) :
    typeOf language names kind = language.listType^[depth] (names.className language name) := by
  induction h with
  | model => rfl
  | @list element depth h ih =>
    rw [Function.iterate_succ_apply', ← ih]
    rfl

/-! ## Descriptors of operations and parameters, but for their names -/

variable (language : Language) (names : NameTable)

/-- The descriptor of a parameter that is given a name. -/
def parameterNamed (parameter : Declaration.Parameter) (name : String) : ParameterDescriptor where
  name
  jsonName := parameter.name.getD ""
  type := typeOf language names (parameterKind parameter)
  location := String.ofList ((parameter.paramType.getD "").toList.map Char.toLower)
  required := parameter.required
  description := parameter.description

/-- The descriptor of an operation that is given a name. -/
def operationNamed (path : String) (operation : Declaration.Operation) (name : String) :
    OperationDescriptor where
  name
  method := String.ofList ((operation.method.getD "").toList.map Char.toUpper)
  path
  returnType := typeOf language names (returnKind operation)
  summary := operation.summary
  notes := operation.notes
  deprecated := operation.deprecated.any (·.isSet)
  parameters := parameterDescriptors language names ⟨false, []⟩ operation.parameters

/-- Parameters are described one by one, but for the names they claim. -/
theorem forall₂_parameterDescriptors (scope : Naming.Scope)
    (parameters : List Declaration.Parameter) :
    List.Forall₂ (fun p d => d = parameterNamed language names p d.name) parameters
      (parameterDescriptors language names scope parameters) := by
  induction parameters generalizing scope with
  | nil => exact .nil
  | cons p rest ih => exact .cons rfl (ih _)

/-- Operations are described one by one, but for the names they claim. -/
theorem forall₂_operationDescriptors (path : String) (scope : Naming.Scope)
    (operations : List Declaration.Operation) :
    List.Forall₂ (fun o d => d = operationNamed language names path o d.name) operations
      (operationDescriptors language names path scope operations).1 := by
  induction operations generalizing scope with
  | nil => exact .nil
  | cons o rest ih => exact .cons rfl (ih _)

/-- The operations of groups are described one by one, but for the names they claim. -/
theorem forall₂_apiDescriptors (scope : Naming.Scope) (apis : List Declaration.Api) :
    List.Forall₂ (fun api a => List.Forall₂ (fun o d =>
        d = operationNamed language names (api.path.getD "") o d.name) api.operations a.operations)
      apis (apiDescriptors language names scope apis) := by
  induction apis generalizing scope with
  | nil => exact .nil
  | cons api rest ih =>
    exact .cons (forall₂_operationDescriptors language names _ scope api.operations) (ih _)

/-! ## Types that show references -/

/-- Where the model `name` is mentioned, the kind refers to it and the shown type is the class,
under a list type for each list. -/
def ShowsClass (name className : String) (mentions : String → Nat → Prop) (kind : Kind)
    (shown : String) : Prop :=
  ∀ depth, (mentions name depth ↔ kind.Refers name depth) ∧
    (kind.Refers name depth → shown = language.listType^[depth] className)

/-- In a declaration and the descriptors made of it, all that mentions the model `name` shows
the class `target`, the only one for that model. -/
structure ShowsReferences (declaration : Declaration) (name : String)
    (target : ModelDescriptor) : Prop where
  mem_models : target ∈ (Converter.ready language declaration).models
  declaredName_iff : ∀ m ∈ (Converter.ready language declaration).models,
    m.declaredName = name ↔ m = target
  properties : List.Forall₂ (fun (entry : String × Declaration.Model) m =>
      List.Forall₂ (fun (property : String × Declaration.Property) d =>
          ShowsClass language name target.name property.2.Mentions (propertyKind property.2) d.type)
        entry.2.properties.entries m.properties)
    declaration.models.entries (Converter.ready language declaration).models
  parents : List.Forall₂ (fun (entry : String × Declaration.Model) m =>
      declaration.parentOf entry.1 = .found name → m.parent = some target.name)
    declaration.models.entries (Converter.ready language declaration).models
  subTypes : List.Forall₂ (fun (entry : String × Declaration.Model) m =>
      List.Forall₂ (fun sub shown => sub = name → shown = target.name)
        (entry.2.subTypes.getD []) m.subTypes)
    declaration.models.entries (Converter.ready language declaration).models
  returns : List.Forall₂ (fun (api : Declaration.Api) a =>
      List.Forall₂ (fun (o : Declaration.Operation) d =>
          ShowsClass language name target.name o.Mentions (returnKind o) d.returnType)
        api.operations a.operations)
    (declaration.apis.getD []) (Converter.ready language declaration).apis
  parameters : List.Forall₂ (fun (api : Declaration.Api) a =>
      List.Forall₂ (fun (o : Declaration.Operation) d =>
          List.Forall₂ (fun (p : Declaration.Parameter) shown =>
              ShowsClass language name target.name p.Mentions (parameterKind p) shown.type)
            o.parameters d.parameters)
        api.operations a.operations)
    (declaration.apis.getD []) (Converter.ready language declaration).apis

variable {language}

theorem showsClass_typeOf {names : NameTable} {mentions : String → Nat → Prop} {kind : Kind}
    (h : ∀ depth, kind.Refers name depth ↔ mentions name depth) :
    ShowsClass language name (names.className language name) mentions kind
      (typeOf language names kind) :=
  fun depth => ⟨(h depth).symm, typeOf_of_refers⟩

theorem showsClass_properties (declaration : Declaration) (modelName : String)
    (model : Declaration.Model) :
    List.Forall₂ (fun (property : String × Declaration.Property) d =>
        ShowsClass language name (names.className language name) property.2.Mentions
          (propertyKind property.2) d.type)
      model.properties.entries
      (modelDescriptor language names declaration modelName model).properties := by
  refine List.forall₂_map_right_iff.mpr (List.forall₂_same.mpr fun property _ => ?_)
  exact showsClass_typeOf fun _ => refers_propertyKind_iff

theorem showsClass_returns (apis : List Declaration.Api) :
    List.Forall₂ (fun (api : Declaration.Api) a =>
        List.Forall₂ (fun (o : Declaration.Operation) d =>
            ShowsClass language name (names.className language name) o.Mentions (returnKind o)
              d.returnType)
          api.operations a.operations)
      apis (apiDescriptors language names ⟨false, []⟩ apis) := by
  refine (forall₂_apiDescriptors language names _ apis).imp fun api a hoperations => ?_
  refine hoperations.imp fun o d hd => ?_
  rw [hd]
  exact showsClass_typeOf fun _ => refers_returnKind_iff

theorem showsClass_parameters (apis : List Declaration.Api) :
    List.Forall₂ (fun (api : Declaration.Api) a =>
        List.Forall₂ (fun (o : Declaration.Operation) d =>
            List.Forall₂ (fun (p : Declaration.Parameter) shown =>
                ShowsClass language name (names.className language name) p.Mentions
                  (parameterKind p) shown.type)
              o.parameters d.parameters)
          api.operations a.operations)
      apis (apiDescriptors language names ⟨false, []⟩ apis) := by
  refine (forall₂_apiDescriptors language names _ apis).imp fun api a hoperations => ?_
  refine hoperations.imp fun o d hd => ?_
  rw [hd]
  refine (forall₂_parameterDescriptors language names _ o.parameters).imp fun p shown hshown => ?_
  rw [hshown]
  exact showsClass_typeOf fun _ => refers_parameterKind_iff

/-- **References to a declared model**: there is one descriptor for it, and all that mentions
the model shows the class of this descriptor. -/
theorem showsReferences_of_mem (declaration : Declaration)
    (hname : name ∈ declaration.models.keys) :
    ∃ target, ShowsReferences language declaration name target := by
  obtain ⟨entry, hentry, rfl⟩ := List.mem_map.mp hname
  let names := NameTable.build language declaration
  refine ⟨modelDescriptor language names declaration entry.1 entry.2, ?_, ?_, ?_, ?_, ?_, ?_, ?_⟩
  · exact List.mem_map.mpr ⟨entry, hentry, rfl⟩
  · intro m hm
    obtain ⟨other, hother, rfl⟩ := List.mem_map.mp hm
    constructor
    · intro heq
      have hsame : other = entry :=
        List.inj_on_of_nodup_map declaration.models.nodup_keys hother hentry heq
      rw [hsame]
      rfl
    · intro heq
      rw [heq]
      rfl
  · exact List.forall₂_map_right_iff.mpr (List.forall₂_same.mpr fun other _ =>
      showsClass_properties names declaration other.1 other.2)
  · refine List.forall₂_map_right_iff.mpr (List.forall₂_same.mpr fun other _ hparent => ?_)
    change (declaration.parentOf other.1).parent?.map (names.className language) = _
    rw [hparent]
    rfl
  · refine List.forall₂_map_right_iff.mpr (List.forall₂_same.mpr fun other _ => ?_)
    refine List.forall₂_map_right_iff.mpr (List.forall₂_same.mpr fun sub _ hsub => ?_)
    rw [hsub]
    rfl
  · exact showsClass_returns names _
  · exact showsClass_parameters names _

/-- Two models whose names become one identifier, and an operation that returns lists of the
second. -/
def hyphenAndUnderscore : Declaration where
  apis := some [{ operations := [{ type := "array", items := some { reference := "pet_item" } }] }]
  models := ⟨[("pet-item", { subTypes := some ["pet_item"] }),
    ("pet_item", { properties := ⟨[("next", { reference := "pet_item" })], by decide⟩ })],
    by decide⟩

theorem showsReferences_hyphenAndUnderscore :
    "pet_item" ∈ hyphenAndUnderscore.models.keys ∧ ∃ target : ModelDescriptor,
      target.name = "pet_item1" ∧
      ShowsReferences CSharp.language hyphenAndUnderscore "pet_item" target := by
  have hmem : "pet_item" ∈ hyphenAndUnderscore.models.keys := by decide
  obtain ⟨target, htarget⟩ :=
    @showsReferences_of_mem "pet_item" CSharp.language hyphenAndUnderscore hmem
  have hclass : ∀ m ∈ (Converter.ready CSharp.language hyphenAndUnderscore).models,
      m.declaredName = "pet_item" → m.name = "pet_item1" := by decide +kernel
  have hdeclared := (htarget.declaredName_iff target htarget.mem_models).mpr rfl
  exact ⟨hmem, target, hclass target htarget.mem_models hdeclared, htarget⟩

example : ((Converter.ready CSharp.language hyphenAndUnderscore).apis.map fun a =>
    a.operations.map (·.returnType)) = [["List<pet_item1>"]] := by decide +kernel

end Client

end Stencil
