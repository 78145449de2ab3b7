import Stencil.Proofs.Template.Known
import Stencil.Proofs.Template.Lookup
import Stencil.Proofs.Template.Scan

/-!
# Templates that echo their view

A template of literal pieces and of fields of the view is rendered as the literal pieces with the
texts of the fields between them. No delimiter may start in a literal piece, also not one that the
next piece completes. What is put in is not read again: a template is cut into pieces before any
text is put in, and a text is printed as it is.

## Main definitions

* `EchoPart`: a literal piece or a field of the view
* `echoTemplate parts`: the template of the parts
* `isQuiet parts`: no delimiter starts in a literal piece
* `Piece.Writes s piece text`: a piece of a template writes a text

## Main results

* `render_of_writes`: a template whose pieces write texts
* `render_echo`: a template of literal pieces and fields
-/

namespace Stencil.Template

open Json (Value)

/-! ## Pieces that write texts -/

/-- A piece of a template writes a text: it is the text, or it prints a known expression of which it
is the value. -/
inductive Piece.Writes (s : Scope) : Piece → String → Prop
  | text (cs : List Char) : Piece.Writes s (.text cs) (String.ofList cs)
  | print {inside : List Char} {e : Expr} {text : String}
      (hread : Reader.whole? Grammar.assigned inside = some e) (hknown : e.isKnown = true)
      (hvalue : (e.meaning s).value = .ok (.text text)) :
      Piece.Writes s (.delimited .print ⟨false, false⟩ inside) text

/-- An element of a body writes a text. -/
inductive Element.Writes (s : Scope) : Element → String → Prop
  | text (cs : List Char) : Element.Writes s (.text cs) (String.ofList cs)
  | print {e : Expr} {text : String} (hknown : e.isKnown = true)
      (hvalue : (e.meaning s).value = .ok (.text text)) :
      Element.Writes s (.node ⟨false, false⟩ (.print e)) text

section Writes

variable {s : Scope}

theorem runAll_print_cons {e : Expr} {v : Value} (hvalue : (e.meaning s).value = .ok v)
    {nodes : List Node} {o : Outcome} (hothers : Node.runAll s nodes = .ok o) :
    Node.runAll s (.print e :: nodes) = .ok (o.behind v.printed) := by
  have hfirst : Node.run s (.print e) = .ok ⟨s, v.printed, .next⟩ := by
    rw [Node.run, hvalue]
    rfl
  exact Node.runAll_cons hfirst rfl hothers

/-- A text is a node, or none if it is empty, which makes no difference. -/
theorem runAll_textNode_append (cs : List Char) {nodes : List Node} {o : Outcome}
    (hothers : Node.runAll s nodes = .ok o) :
    Node.runAll s (Body.textNode cs ++ nodes) = .ok (o.behind (String.ofList cs)) := by
  cases cs with
  | nil =>
    rw [Body.textNode, List.isEmpty_nil, if_pos rfl, List.nil_append, hothers]
    simp [Outcome.behind]
  | cons c rest =>
    have hfirst : Node.run s (.text (String.ofList (c :: rest))) =
        .ok ⟨s, String.ofList (c :: rest), .next⟩ := by
      rw [Node.run]
    exact Node.runAll_cons hfirst rfl hothers

/-- Elements that write texts keep all blanks beside them. -/
theorem Element.Writes.trimsBefore_eq {element : Element} {text : String}
    (h : element.Writes s text) : element.trimsBefore = false := by
  cases h <;> rfl

/-- Elements write their texts one after the other. -/
theorem runAll_trimmed {elements : List Element} {texts : List String}
    (h : List.Forall₂ (Element.Writes s) elements texts) :
    Node.runAll s (Body.trimmed false false elements) =
      .ok ⟨s, String.join texts, .next⟩ := by
  induction h with
  | nil => rw [Body.trimmed, Node.runAll, String.join_nil]
  | cons hfirst hothers ih =>
    rw [String.join_cons]
    cases hfirst with
    | text cs =>
      -- Neither side of the text is trimmed, as the next element keeps the blanks before it.
      have hnext : ∀ {elements : List Element} {texts : List String},
          List.Forall₂ (Element.Writes s) elements texts →
            Body.trimmed false false (.text cs :: elements) =
              Body.textNode cs ++ Body.trimmed false false elements := by
        rintro _ _ (_ | ⟨hnext, _⟩)
        · rfl
        · rw [Body.trimmed]
          simp only [hnext.trimsBefore_eq]
          rfl
      rw [hnext hothers, runAll_textNode_append cs ih]
      rfl
    | print _ hvalue =>
      rw [Body.trimmed, runAll_print_cons hvalue ih]
      rfl

theorem allKnown_textNode_append (cs : List Char) {nodes : List Node}
    (h : Node.allKnown nodes = true) : Node.allKnown (Body.textNode cs ++ nodes) = true := by
  cases cs with
  | nil => exact h
  | cons => exact h

/-- Elements that write texts are known, however they are trimmed. -/
theorem allKnown_trimmed {elements : List Element} {texts : List String}
    (h : List.Forall₂ (Element.Writes s) elements texts) (before : Bool) :
    Node.allKnown (Body.trimmed before false elements) = true := by
  induction h generalizing before with
  | nil => rfl
  | cons hfirst _ ih =>
    cases hfirst with
    | text cs => exact allKnown_textNode_append _ (ih false)
    | print hknown => exact Bool.and_eq_true_iff.mpr ⟨hknown, ih false⟩

/-- Pieces that write texts become elements that write them. -/
theorem exists_nest? {pieces : List Piece} {texts done : List String} {elements : List Element}
    (h : List.Forall₂ (Piece.Writes s) pieces texts)
    (hdone : List.Forall₂ (Element.Writes s) elements.reverse done) :
    ∃ nodes, Node.nest? [] elements pieces = some nodes ∧ Node.allKnown nodes = true ∧
      Node.runAll s nodes = .ok ⟨s, String.join (done ++ texts), .next⟩ := by
  induction h generalizing elements done with
  | nil =>
    refine ⟨_, rfl, allKnown_trimmed hdone false, ?_⟩
    rw [List.append_nil]
    exact runAll_trimmed hdone
  | @cons piece text pieces texts hfirst _ ih =>
    -- The elements are kept the latest first, so that one more comes behind those that are done.
    have hsnoc : ∀ {element : Element}, element.Writes s text →
        List.Forall₂ (Element.Writes s) (element :: elements).reverse (done ++ [text]) := by
      intro element helement
      rw [List.reverse_cons]
      exact List.rel_append hdone (.cons helement .nil)
    rw [List.append_cons]
    cases hfirst with
    | text cs => exact ih (hsnoc (.text cs))
    | print hread hknown hvalue =>
      obtain ⟨nodes, hnodes, hall, hrun⟩ := ih (hsnoc (.print hknown hvalue))
      refine ⟨nodes, ?_, hall, hrun⟩
      rw [Node.nest?, hread]
      exact hnodes

end Writes

/-- **A template whose pieces write texts** is known and rendered as these texts one after the
other. -/
theorem render_of_writes {template : String} {view : Value} {pieces : List Piece}
    {texts : List String} (hsplit : Piece.split? template = some pieces)
    (hwrites : List.Forall₂ (Piece.Writes (.start viewName view)) pieces texts) :
    isKnown template = true ∧ render template view = .ok (String.join texts) := by
  -- A comment writes nothing, so there is none at the start to be dropped.
  have hcomments : pieces.dropWhile Node.isComment = pieces := by
    rcases hwrites with _ | ⟨_ | _, _⟩ <;> rfl
  obtain ⟨nodes, hnodes, hall, hrun⟩ := @exists_nest? _ _ _ [] [] hwrites .nil
  have hread : Node.read? template = some nodes := by
    rw [Node.read?, hsplit]
    change Node.nest? [] [] (pieces.dropWhile Node.isComment) = _
    rw [hcomments, hnodes]
  constructor
  · rw [isKnown, hread]
    exact hall
  · simp only [render, renderIn, hread, hrun, List.nil_append]

/-! ## Parts -/

/-- What the views hold as texts. Only that of all operations has a name. -/
inductive Field where
  | resourceurl
  | nameSpace
  | name
deriving DecidableEq, Repr

namespace Field

/-- The name of a field in the view. -/
def member : Field → String
  | resourceurl => "Resourceurl"
  | nameSpace => "Namespace"
  | name => "Name"

/-- A field between delimiters. -/
def inside (f : Field) : List Char := (" Model." ++ f.member ++ " ").toList

end Field

/-- A literal piece or a field of the view. -/
inductive EchoPart where
  | literal (cs : List Char)
  | field (f : Field)
deriving DecidableEq, Repr

namespace EchoPart

/-- A part as it stands in a template. -/
def chars : EchoPart → List Char
  | literal cs => cs
  | field f => '\x7b' :: '\x7b' :: f.inside ++ ['\x7d', '\x7d']

/-- What a part is rendered as, where the fields have texts. -/
def written (value : Field → String) : EchoPart → String
  | literal cs => String.ofList cs
  | field f => value f

end EchoPart

/-- The template of the parts. -/
def echoTemplate (parts : List EchoPart) : String := String.ofList (parts.flatMap EchoPart.chars)

/-- No delimiter starts in a literal piece, also not one that the next piece completes. -/
def isQuiet : List EchoPart → Bool
  | [] => true
  | .literal cs :: parts => !opensWithin cs (parts.flatMap EchoPart.chars) && isQuiet parts
  | .field _ :: parts => isQuiet parts

/-! ## Fields -/

namespace Field

/-- The path of a field. -/
def path (f : Field) : Path := ⟨"Model." ++ f.member⟩

/-- The characters between the delimiters are read as the path of the field, which is plain. -/
theorem path_read (f : Field) :
    (Reader.whole? Grammar.assigned f.inside).bind Expr.path? = some f.path ∧
      f.inside.all Piece.isPlain = true ∧ f.path.isPlain = true ∧
      f.path.trail.root = viewName ∧ f.path.trail.names = [f.member] := by
  cases f <;> decide +kernel

theorem read_inside (f : Field) :
    Reader.whole? Grammar.assigned f.inside = some (.plain (.path f.path)) := by
  obtain ⟨e, he, hpath⟩ := Option.bind_eq_some_iff.mp f.path_read.1
  rw [he, Expr.eq_of_path? hpath]

theorem find_path {members : Keyed Value} {f : Field} {v : Value}
    (hfound : members.lookup f.member = some v) :
    (Scope.start viewName (.object members)).find f.path = .ok v := by
  obtain ⟨-, -, hplain, hroot, hnames⟩ := f.path_read
  refine Scope.find_of_lookup? hplain ?_
  have hwalk : f.path.trail.walk? (.object members) = some v := by
    simp [Trail.walk?, hnames, Trail.step?, hfound]
  -- There are no rounds, and nothing is assigned.
  change (if f.path.trail.root = viewName then f.path.trail.walk? (.object members) else none) = _
  rw [if_pos hroot, hwalk]

/-- A field writes the text that it has in the view. -/
theorem writes {members : Keyed Value} {f : Field} {text : String}
    (hfound : members.lookup f.member = some (.text text)) :
    Piece.Writes (.start viewName (.object members)) (.delimited .print ⟨false, false⟩ f.inside)
      text :=
  .print f.read_inside rfl (Expr.value_path (find_path hfound))

theorem isPlain_of_mem_inside (f : Field) : ∀ c ∈ f.inside, Piece.isPlain c = true :=
  List.all_eq_true.mp f.path_read.2.1

end Field

/-! ## Rendering -/

/-- A text that was read is a piece, or none if it is empty, which makes no difference. -/
theorem exists_forall₂_textBefore {s : Scope} (read : List Char) {pieces : List Piece}
    {texts : List String} (h : List.Forall₂ (Piece.Writes s) pieces texts) :
    ∃ others, List.Forall₂ (Piece.Writes s) (Piece.textBefore read pieces) others ∧
      String.join others = String.ofList read.reverse ++ String.join texts := by
  cases read with
  | nil => exact ⟨texts, h, by simp⟩
  | cons c read => exact ⟨_ :: texts, .cons (.text _) h, String.join_cons⟩

variable {members : Keyed Value} {value : Field → String} {parts : List EchoPart}

/-- The pieces of a template of parts write the literal pieces and the texts of the fields, behind
what was read before. -/
theorem exists_pieces (hquiet : isQuiet parts = true)
    (hfields : ∀ f, .field f ∈ parts → members.lookup f.member = some (.text (value f)))
    (read : List Char) :
    ∃ pieces texts, Piece.scan? (.text read) (parts.flatMap EchoPart.chars) = some pieces ∧
      List.Forall₂ (Piece.Writes (.start viewName (.object members))) pieces texts ∧
      String.join texts =
        String.ofList read.reverse ++ String.join (parts.map (EchoPart.written value)) := by
  induction parts generalizing read with
  | nil =>
    obtain ⟨texts, hwrites, htexts⟩ := exists_forall₂_textBefore read .nil
    exact ⟨_, texts, Piece.scan?_text_nil read, hwrites, htexts⟩
  | cons part parts ih =>
    have hothers := fun f hf => hfields f (List.mem_cons_of_mem part hf)
    rw [List.flatMap_cons, List.map_cons, String.join_cons]
    cases part with
    | literal cs =>
      rw [isQuiet, Bool.and_eq_true, Bool.not_eq_true'] at hquiet
      obtain ⟨pieces, texts, hscan, hwrites, htexts⟩ := ih hquiet.2 hothers (cs.reverse ++ read)
      refine ⟨pieces, texts, (Piece.scan?_text_append hquiet.1 read).trans hscan, hwrites, ?_⟩
      rw [htexts, List.reverse_append, List.reverse_reverse, String.ofList_append,
        String.append_assoc]
      rfl
    | field f =>
      -- What was read up to here becomes a piece, and reading starts anew behind the field.
      obtain ⟨pieces, texts, hscan, hwrites, htexts⟩ := ih hquiet hothers []
      have hfield := f.writes (hfields f List.mem_cons_self)
      obtain ⟨all, hall, hjoin⟩ := exists_forall₂_textBefore read (.cons hfield hwrites)
      refine ⟨_, all, ?_, hall, ?_⟩
      · have hchars : (EchoPart.field f).chars ++ parts.flatMap EchoPart.chars =
            '\x7b' :: '\x7b' :: f.inside ++ '\x7d' :: '\x7d' :: parts.flatMap EchoPart.chars := by
          simp [EchoPart.chars]
        rw [hchars, Piece.scan?_print f.isPlain_of_mem_inside, hscan]
        rfl
      · rw [hjoin, String.join_cons, htexts]
        simp [EchoPart.written]

/-- **A template of literal pieces and fields** is known and rendered as the literal pieces with the
texts of the fields between them. -/
theorem render_echo (hquiet : isQuiet parts = true)
    (hfields : ∀ f, .field f ∈ parts → members.lookup f.member = some (.text (value f))) :
    isKnown (echoTemplate parts) = true ∧
      render (echoTemplate parts) (.object members) =
        .ok (String.join (parts.map (EchoPart.written value))) := by
  obtain ⟨pieces, texts, hscan, hwrites, htexts⟩ := exists_pieces hquiet hfields []
  have hsplit : Piece.split? (echoTemplate parts) = some pieces := by
    rw [Piece.split?, echoTemplate, String.toList_ofList, hscan]
  have hjoin : String.join texts = String.join (parts.map (EchoPart.written value)) := by
    rw [htexts]
    simp
  exact hjoin ▸ render_of_writes hsplit hwrites

end Stencil.Template
