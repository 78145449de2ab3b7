import Stencil.Proofs.Declaration.FaultsFound
import Stencil.Proofs.Declaration.KnownMembers
import Stencil.Proofs.Declaration.WidenedTrees

/-!
# Explicit nulls

Each of the eight structures is read of an object as if nulls in it were absent, at any depth, and
so is a document.

## Main definitions

* `Items.Widens` and the like, `Declaration.Widens`: nulls in the objects of all structures

## Main results

* `Items.keeps` and the like, `Declaration.keeps`: structures are read of widened trees
* `Document.parse_widened`: so are documents
-/

namespace Stencil

open Json

namespace Declaration

open Node

/-- Element descriptions with nulls. -/
def Items.Widens : Node → Node → Prop := Node.Widens Items.schema.fields fun _ => Node.Alike Eq

/-- Values of the members of properties, with nulls. -/
def Property.WidensAt (key : String) : Node → Node → Prop :=
  if key = "items" then Items.Widens else Node.Alike Eq

/-- Properties with nulls. -/
def Property.Widens : Node → Node → Prop :=
  Node.Widens Property.schema.fields Property.WidensAt

/-- Values of the members of models, with nulls. -/
def Model.WidensAt (key : String) : Node → Node → Prop :=
  if key = "properties" then WidensTable Property.Widens else Node.Alike Eq

/-- Models with nulls. -/
def Model.Widens : Node → Node → Prop := Node.Widens Model.schema.fields Model.WidensAt

/-- Responses with nulls. -/
def ResponseMessage.Widens : Node → Node → Prop :=
  Node.Widens ResponseMessage.schema.fields fun _ => Node.Alike Eq

/-- Values of the members of parameters, with nulls. -/
def Parameter.WidensAt (key : String) : Node → Node → Prop :=
  if key = "items" then Items.Widens else Node.Alike Eq

/-- Parameters with nulls. -/
def Parameter.Widens : Node → Node → Prop :=
  Node.Widens Parameter.schema.fields Parameter.WidensAt

/-- Values of the members of operations, with nulls. -/
def Operation.WidensAt (key : String) : Node → Node → Prop :=
  if key = "items" then Items.Widens
  else if key = "parameters" then WidensItems Parameter.Widens
  else if key = "responseMessages" then WidensItems ResponseMessage.Widens
  else Node.Alike Eq

/-- Operations with nulls. -/
def Operation.Widens : Node → Node → Prop :=
  Node.Widens Operation.schema.fields Operation.WidensAt

/-- Values of the members of groups of operations, with nulls. -/
def Api.WidensAt (key : String) : Node → Node → Prop :=
  if key = "operations" then WidensItems Operation.Widens else Node.Alike Eq

/-- Groups of operations with nulls. -/
def Api.Widens : Node → Node → Prop := Node.Widens Api.schema.fields Api.WidensAt

/-- Values of the members of declarations, with nulls. -/
def WidensAt (key : String) : Node → Node → Prop :=
  if key = "apis" then WidensItems Api.Widens
  else if key = "models" then WidensTable Model.Widens
  else Node.Alike Eq

/-- Declarations with nulls. -/
def Widens : Node → Node → Prop := Node.Widens schema.fields WidensAt

/-! ## Reading -/

theorem Items.keepsFields : Items.schema.KeepsFields fun _ => Node.Alike Eq := by
  simp only [Schema.KeepsFields, schema, List.forall_mem_cons]
  and_intros
  all_goals first | infer_instance | exact List.forall_mem_nil _

instance Items.keeps : Keeps Items.Widens Items.schema.read := Items.keepsFields.keeps

theorem Property.keepsFields : Property.schema.KeepsFields Property.WidensAt := by
  simp only [Schema.KeepsFields, schema, List.forall_mem_cons, WidensAt, String.reduceEq, reduceIte]
  and_intros
  all_goals first | infer_instance | exact List.forall_mem_nil _

instance Property.keeps : Keeps Property.Widens Property.schema.read := Property.keepsFields.keeps

theorem Model.keepsFields : Model.schema.KeepsFields Model.WidensAt := by
  simp only [Schema.KeepsFields, schema, List.forall_mem_cons, WidensAt, String.reduceEq, reduceIte]
  and_intros
  all_goals first | infer_instance | exact List.forall_mem_nil _

instance Model.keeps : Keeps Model.Widens Model.schema.read := Model.keepsFields.keeps

theorem ResponseMessage.keepsFields :
    ResponseMessage.schema.KeepsFields fun _ => Node.Alike Eq := by
  simp only [Schema.KeepsFields, schema, List.forall_mem_cons]
  and_intros
  all_goals first | infer_instance | exact List.forall_mem_nil _

instance ResponseMessage.keeps : Keeps ResponseMessage.Widens ResponseMessage.schema.read :=
  ResponseMessage.keepsFields.keeps

theorem Parameter.keepsFields : Parameter.schema.KeepsFields Parameter.WidensAt := by
  simp only [Schema.KeepsFields, schema, List.forall_mem_cons, WidensAt, String.reduceEq, reduceIte]
  and_intros
  all_goals first | infer_instance | exact List.forall_mem_nil _

instance Parameter.keeps : Keeps Parameter.Widens Parameter.schema.read :=
  Parameter.keepsFields.keeps

theorem Operation.keepsFields : Operation.schema.KeepsFields Operation.WidensAt := by
  simp only [Schema.KeepsFields, schema, List.forall_mem_cons, WidensAt, String.reduceEq, reduceIte]
  and_intros
  all_goals first | infer_instance | exact List.forall_mem_nil _

instance Operation.keeps : Keeps Operation.Widens Operation.schema.read :=
  Operation.keepsFields.keeps

theorem Api.keepsFields : Api.schema.KeepsFields Api.WidensAt := by
  simp only [Schema.KeepsFields, schema, List.forall_mem_cons, WidensAt, String.reduceEq, reduceIte]
  and_intros
  all_goals first | infer_instance | exact List.forall_mem_nil _

instance Api.keeps : Keeps Api.Widens Api.schema.read := Api.keepsFields.keeps

theorem keepsFields : schema.KeepsFields WidensAt := by
  simp only [Schema.KeepsFields, schema, List.forall_mem_cons, WidensAt, String.reduceEq, reduceIte]
  and_intros
  all_goals first | infer_instance | exact List.forall_mem_nil _

instance keeps : Keeps Widens schema.read := keepsFields.keeps

end Declaration

namespace Document

/-- **A document** with explicit nulls is the one without them. -/
theorem parse_widened {text widened : String} {declaration : Declaration}
    (h : Declaration.read (plain text) = .ok declaration)
    (hwidens : Declaration.Widens (TextTree.read (plain text)).root
      (TextTree.read (plain widened)).root)
    (htrailing : (TextTree.read (plain widened)).trailing = none) :
    Declaration.read (plain widened) = .ok declaration ∧ parse widened = parse text := by
  have hread := Declaration.keeps.read_eq_ok hwidens (Declaration.read_root_of_ofTree h)
  have hwidened : Declaration.read (plain widened) = .ok declaration := by
    unfold Declaration.read Declaration.ofTree
    rw [hread, htrailing]
  exact ⟨hwidened, by rw [parse, parse, h, hwidened]⟩

end Document

end Stencil
