import Stencil.Run.Renderer

/-!
# Shipped templates

The template files that come with the program: one for classes and one for the operations, for C#
and, with the prefix `ts`, for TypeScript.
-/

namespace Stencil

namespace Template

/-- A value between delimiters. -/
def shown (inside : String) : String := "\x7b\x7b " ++ inside ++ " \x7d\x7d"

/-- A tag. -/
def tag (inside : String) : String := "\x7b% " ++ inside ++ " %\x7d"

/-- A tag that drops the blanks before it. -/
def trimTag (inside : String) : String := "\x7b%- " ++ inside ++ " %\x7d"

/-- Lines, each with its end. -/
def ofLines (lines : List String) : String := String.join (lines.map (· ++ "\n"))

end Template

/-- A template for each role. -/
structure TemplatePair where
  /-- What the names of the files start with. -/
  namePrefix : String
  template : TemplateRole → String

namespace TemplatePair

open Template (shown tag trimTag ofLines)

/-! ## C# -/

/-- The template for a class. -/
def csharpModel : String := ofLines [
  "// Generated from " ++ shown "Model.Resourceurl",
  "using System;",
  "using System.Collections.Generic;",
  "using System.Runtime.Serialization;",
  "",
  "namespace " ++ shown "Model.Namespace",
  "\x7b",
  trimTag "set dt = Model.DataType",
  trimTag "if dt.Description",
  "    /// <summary>" ++ shown "dt.Description" ++ "</summary>",
  trimTag "endif",
  "    [DataContract(Name = \"" ++ shown "dt.OriginalName" ++ "\")]",
  "    public class " ++ shown "dt.Name" ++ tag "if dt.Parent" ++ " : " ++ shown "dt.Parent" ++
    tag "endif",
  "    \x7b",
  trimTag "for p in dt.Properties",
  trimTag "if p.Description",
  "        /// <summary>" ++ shown "p.Description" ++ "</summary>",
  trimTag "endif",
  trimTag "if p.Enum",
  "        /// <remarks>Allowed values: " ++ shown "p.Enum | join(sep=\", \")" ++ "</remarks>",
  trimTag "endif",
  "        [DataMember(Name = \"" ++ shown "p.JsonName" ++ "\"" ++ tag "if p.Required" ++
    ", IsRequired = true" ++ tag "endif" ++ ")]",
  "        public " ++ shown "p.Type" ++ " " ++ shown "p.Name" ++ " \x7b get; set; \x7d",
  tag "endfor",
  "    \x7d",
  "\x7d"]

/-- The template for the operations. -/
def csharpOperations : String := ofLines [
  "// Generated from " ++ shown "Model.Resourceurl",
  "using System;",
  "using System.Collections.Generic;",
  "using System.Threading.Tasks;",
  "",
  "namespace " ++ shown "Model.Namespace",
  "\x7b",
  "    public interface I" ++ shown "Model.Name",
  "    \x7b",
  trimTag "for api in Model.Apis",
  trimTag "for op in api.Operations",
  trimTag "if op.Summary",
  "        /// <summary>" ++ shown "op.Summary" ++ "</summary>",
  trimTag "endif",
  trimTag "for param in op.Parameters",
  "        /// <param name=\"" ++ shown "param.Name" ++ "\">" ++ shown "param.Location" ++ " " ++
    shown "param.JsonName" ++ tag "if param.Description" ++ ": " ++ shown "param.Description" ++
    tag "endif" ++ "</param>",
  trimTag "endfor",
  "        /// <remarks>" ++ shown "op.Method" ++ " " ++ shown "op.Path" ++ "</remarks>",
  trimTag "if op.Deprecated",
  "        [Obsolete]",
  trimTag "endif",
  "        Task" ++ tag "if op.ReturnType != \"void\"" ++ "<" ++ shown "op.ReturnType" ++ ">" ++
    tag "endif" ++ " " ++ shown "op.Name" ++ "(" ++ tag "for param in op.Parameters" ++
    shown "param.Type" ++ " " ++ shown "param.Name" ++ tag "if not loop.last" ++ ", " ++
    tag "endif" ++ tag "endfor" ++ ");",
  tag "endfor",
  trimTag "endfor",
  "    \x7d",
  "\x7d"]

/-! ## TypeScript -/

/-- The template for a class. -/
def typeScriptModel : String := ofLines [
  "// Generated from " ++ shown "Model.Resourceurl",
  trimTag "set dt = Model.DataType",
  trimTag "if dt.Description",
  "/** " ++ shown "dt.Description" ++ " */",
  trimTag "endif",
  "export interface " ++ shown "dt.Name" ++ tag "if dt.Parent" ++ " extends " ++
    shown "dt.Parent" ++ tag "endif" ++ " \x7b",
  trimTag "for p in dt.Properties",
  trimTag "if p.Description",
  "  /** " ++ shown "p.Description" ++ " */",
  trimTag "endif",
  "  " ++ shown "p.Name" ++ tag "if not p.Required" ++ "?" ++ tag "endif" ++ ": " ++
    tag "if p.Enum" ++ tag "for value in p.Enum" ++ "\"" ++ shown "value" ++ "\"" ++
    tag "if not loop.last" ++ " | " ++ tag "endif" ++ tag "endfor" ++ tag "else" ++
    shown "p.Type" ++ tag "endif" ++ ";",
  trimTag "endfor",
  "\x7d"]

/-- The template for the operations. -/
def typeScriptOperations : String := ofLines [
  "// Generated from " ++ shown "Model.Resourceurl",
  "// namespace " ++ shown "Model.Namespace",
  "",
  "export interface " ++ shown "Model.Name" ++ "Api \x7b",
  trimTag "for api in Model.Apis",
  trimTag "for op in api.Operations",
  trimTag "if op.Summary",
  "  /** " ++ shown "op.Summary" ++ " */",
  trimTag "endif",
  "  /** " ++ shown "op.Method" ++ " " ++ shown "op.Path" ++ tag "if op.Deprecated" ++
    " @deprecated" ++ tag "endif" ++ " */",
  "  " ++ shown "op.Name" ++ "(" ++ tag "for param in op.Parameters" ++ shown "param.Name" ++
    tag "if not param.Required" ++ "?" ++ tag "endif" ++ ": " ++ shown "param.Type" ++
    tag "if not loop.last" ++ ", " ++ tag "endif" ++ tag "endfor" ++ "): Promise<" ++
    shown "op.ReturnType" ++ ">;",
  trimTag "endfor",
  trimTag "endfor",
  "\x7d"]

/-! ## Pairs -/

/-- The templates for C#. -/
def csharp : TemplatePair where
  namePrefix := ""
  template
    | .model => csharpModel
    | .operations => csharpOperations

/-- The templates for TypeScript. -/
def typeScript : TemplatePair where
  namePrefix := "ts"
  template
    | .model => typeScriptModel
    | .operations => typeScriptOperations

/-- The pairs that come with the program. -/
def shipped : List TemplatePair := [csharp, typeScript]

end TemplatePair

end Stencil
