import NoteBridge.Options
import NoteBridge.Page.Block
import NoteBridge.Text.Small

/-!
Fenced code on a page. The language is the first word of the info string in small letters, under
its full name. Formulas become equations, and queries become callouts that stand in for them.
-/

namespace NoteBridge.Compose

open Page (Block BlockKind Run)
open Text

def languageNames : List (List String × String) :=
  [(["", "text", "txt", "plaintext", "plain"], Page.plainLanguage),
    (["js", "jsx", "mjs"], "javascript"), (["ts", "tsx"], "typescript"),
    (["py", "python3"], "python"), (["rs"], "rust"), (["sh", "zsh", "console"], "shell"),
    (["yml"], "yaml"), (["md"], "markdown"), (["cpp", "cc", "cxx", "hpp"], "c++"),
    (["cs", "csharp"], "c#"), (["fs", "fsharp"], "f#"), (["golang"], "go"), (["rb"], "ruby"),
    (["kt"], "kotlin"), (["ps1", "pwsh"], "powershell"), (["dockerfile"], "docker"),
    (["tex"], "latex")]

/-- The full name of a language; one that has no short names keeps its own. -/
def fullLanguage (language : String) : String :=
  match languageNames.find? fun (names, _) => names.contains language with
  | some (_, name) => name
  | none => language

def codeRuns (style : Page.Style) (content : List Char) : List Run :=
  (Page.splitText Page.runLimit content).map fun piece => .text (String.ofList piece) style

def withoutLastLineFeeds (literal : String) : List Char := dropEndWhile (· == '\n') literal.toList

def queryTitleEnding : String := " query"

def queryNotice : String := "This block is a live query and is only rendered in the vault."

/-- The callout that stands in for a query, with the query as code. -/
def queryCallout (options : Options) (language : String) (query : String) : Block :=
  let runs :=
    [.text (language ++ queryTitleEnding) { bold := true }, .text ("\n" ++ queryNotice ++ "\n")] ++
      codeRuns { code := true } (withoutLastLineFeeds query)
  .leaf (.callout runs options.callouts.query (.background .blue))

def codeLanguage (info : Option String) : String :=
  match words (info.getD "").toList with
  | word :: _ => String.ofList (toSmall word)
  | [] => ""

def codeBlock (options : Options) (info : Option String) (literal : String) : Block :=
  let language := codeLanguage info
  if language = "math" ∨ language = "latex" then .leaf (.equation (onString trim literal))
  else if language = "dataview" ∨ language = "dataviewjs" then queryCallout options language literal
  else .leaf (.code (codeRuns {} (withoutLastLineFeeds literal)) (fullLanguage language) [])

end NoteBridge.Compose
