import DeclAtlas.Browser.Basic
import DeclAtlas.Command.Arguments

/-!
# Commands

What can be asked on the command line: an outline of a folder of sources, a site for it, or the
browser.  `read` gives the command that a list of arguments asks for.
-/

namespace DeclAtlas

/-- Which sources a command reads, and how. -/
structure SourceChoice where
  /-- The folder of the sources. -/
  folder : Path
  /-- The defined symbols; those of the settings if not given. -/
  defines : Option Text := none
  /-- The extension of the sources; that of the settings if not given. -/
  extension : Option Text := none
  deriving DecidableEq, Repr

/-- What a command says of the site to be written, beyond the settings. -/
structure SiteChoice where
  /-- The visibilities that are documented; those of the settings if not given. -/
  visibilities : Option (List Visibility) := none
  expandEnums : Bool := false
  expandStructs : Bool := false
  showAttributes : Bool := false
  writeRedirects : Bool := false
  /-- The extension of the pages; that of the settings if not given. -/
  pageExtension : Option Text := none
  deriving DecidableEq, Repr

/-- The options for a site: visibilities and extension replace those given, the rest adds to
them. -/
def SiteChoice.applyTo (choice : SiteChoice) (options : ExportOptions) : ExportOptions :=
  let chosen (visibility : Visibility) (otherwise : Bool) : Bool :=
    (choice.visibilities.map fun visibilities => visibilities.contains visibility).getD otherwise
  { includePublic := chosen .publicAccess options.includePublic
    includeInternal := chosen .internalAccess options.includeInternal
    includeProtected := chosen .protectedAccess options.includeProtected
    includePrivate := chosen .privateAccess options.includePrivate
    expandEnums := options.expandEnums || choice.expandEnums
    expandStructs := options.expandStructs || choice.expandStructs
    showAttributes := options.showAttributes || choice.showAttributes
    extension := (choice.pageExtension.map bareExtension).getD options.extension
    writeRedirects := options.writeRedirects || choice.writeRedirects }

/-- A command. -/
inductive Command where
  /-- Print the outline of the sources, as text or as a record. -/
  | outline (source : SourceChoice) (asRecord : Bool)
  /-- Write a site. -/
  | site (source : SourceChoice) (target : ExportTarget) (choice : SiteChoice)
  /-- Open the browser. -/
  | browse (source : SourceChoice) (target : ExportTarget)
  deriving DecidableEq, Repr

/-- The sources of a command. -/
def Command.source : Command → SourceChoice
  | outline source _ | site source _ _ | browse source _ => source

/-- A command and the settings file for it. -/
structure Invocation where
  /-- The command. -/
  command : Command
  /-- The settings file; that of the user if not given. -/
  config : Option Path := none
  deriving DecidableEq, Repr

namespace Command

/-! ## Rules for the options -/

/-- A flag. -/
def flag (name : Text) : OptionRule :=
  { name }

/-- An option with any value. -/
def valued (name : Text) : OptionRule :=
  { name, takesValue := true }

/-- An option whose value is a path, which is not empty. -/
def pathValued (name : Text) : OptionRule :=
  { name, takesValue := true, accepts := fun value => !value.isEmpty }

/-- The options that every command accepts, also in front of it. -/
def commonRules : List OptionRule :=
  [{ name := "verbose", letter := 'v' }, pathValued "config",
    { name := "help", letter := 'h', ends := some .help }]

/-- The options in front of a command. -/
def leadingRules : List OptionRule :=
  { name := "version", letter := 'V', ends := some .version } :: commonRules

/-- The options that say how the sources are read. -/
def sourceRules : List OptionRule :=
  [valued "defines", valued "extension"]

/-- The option for the folder of the pages. -/
def outRule : OptionRule :=
  { pathValued "out" with letter := 'o' }

/-- The visibilities in a list with commas, if all are known. -/
def visibilities? (value : Text) : Option (List Visibility) :=
  (Text.splitAtChar ',' value).mapM Visibility.ofKeyword?

/-- The option for the visibilities that are documented. -/
def visibilityRule : OptionRule :=
  { name := "visibility"
    takesValue := true
    isRepeatable := true
    accepts := fun value => (visibilities? value).isSome }

/-- What is printed when help is asked for. -/
def helpText : Text :=
  Text.join ['\n'] [
    "Reads a directory of C# sources and documents its declarations.",
    "",
    "Usage: sharpdoc [OPTIONS] <COMMAND>",
    "",
    "Commands:",
    "  outline <DIRECTORY>  Print the element tree of a source directory",
    "  export <DIRECTORY>   Generate HTML documentation",
    "  browse <DIRECTORY>   Browse the element tree in the terminal",
    "  help                 Print this message",
    "",
    "Options for reading:",
    "      --defines <DEFINES>          `;`-separated constants",
    "      --extension <EXTENSION>      Source file extension",
    "      --config <CONFIG>            Settings file",
    "  -v, --verbose                    Enable verbose logging",
    "",
    "Options of outline:",
    "      --json                       Print JSON instead of an indented outline",
    "",
    "Options of export and browse:",
    "  -o, --out <OUT>                  Output directory",
    "      --force                      Write into a non-empty output directory",
    "",
    "Options of export:",
    "      --visibility <VISIBILITY>    Visibilities to document",
    "      --expand-enums               Document enum members",
    "      --expand-structs             Document struct members",
    "      --attributes                 Include attributes on pages",
    "      --php-fillers                Write index.php redirects",
    "      --page-extension <EXTENSION> Extension of generated pages",
    ""]

/-- The names of the commands. -/
inductive Name where
  | outline
  | site
  | browse
  deriving DecidableEq, Repr

/-- The command of a name. -/
def Name.ofText? (word : Text) : Option Name :=
  if word = "outline".toList then some .outline
  else if word = "export".toList then some .site
  else if word = "browse".toList then some .browse
  else none

/-- The options of a command. -/
def Name.rules : Name → List OptionRule
  | .outline => flag "json" :: sourceRules ++ commonRules
  | .site =>
    [outRule, visibilityRule, flag "expand-enums", flag "expand-structs", flag "attributes",
      flag "php-fillers", valued "page-extension", flag "force"] ++ sourceRules ++ commonRules
  | .browse => [outRule, flag "force"] ++ sourceRules ++ commonRules

/-! ## Reading -/

/-- The sources that arguments name. -/
def sourceOf? (arguments : Arguments) : Option SourceChoice :=
  arguments.operands.head?.map fun folder =>
    { folder := { text := folder }
      defines := arguments.value? "defines"
      extension := arguments.value? "extension" }

/-- The folder for the pages that arguments name. -/
def outOf? (arguments : Arguments) : Option Path :=
  (arguments.value? "out").map Path.mk

/-- What arguments say of a site. -/
def siteOf (arguments : Arguments) : SiteChoice :=
  { visibilities :=
      if arguments.has "visibility" then
        some ((arguments.values "visibility").flatMap fun value => (visibilities? value).getD [])
      else none
    expandEnums := arguments.has "expand-enums"
    expandStructs := arguments.has "expand-structs"
    showAttributes := arguments.has "attributes"
    writeRedirects := arguments.has "php-fillers"
    pageExtension := arguments.value? "page-extension" }

/-- The command of a name with arguments.  The folder of the sources must be given, and for a site
that of the pages. -/
def ofArguments? (name : Name) (arguments : Arguments) : Option Command := do
  let source ← sourceOf? arguments
  let force := arguments.has "force"
  match name with
  | .outline => return .outline source (arguments.has "json")
  | .site => return .site source { folder := ← outOf? arguments, force } (siteOf arguments)
  | .browse => return .browse source { folder := (outOf? arguments).getD "docs", force }

/-- Reads what follows the name of a command.  The settings file named here goes before one named
in front. -/
def readTail (leading : Arguments) (name : Name) (rest : List Text) :
    Except EarlyEnd Invocation := do
  let arguments ← Arguments.read name.rules 1 rest
  match ofArguments? name arguments with
  | none => throw .refused
  | some command =>
    let config := (arguments.value? "config").or (leading.value? "config")
    return { command, config := config.map Path.mk }

/-- Reads what follows the word `help`: at most the name of a command. -/
def readHelp (rest : List Text) : EarlyEnd :=
  match rest with
  | [] => .help
  | [name] => if (Name.ofText? name).isSome || name == "help".toList then .help else .refused
  | _ => .refused

/-- Reads arguments from the front, up to the name of the command. -/
def readLeading (reader : ArgumentReader) : List Text → Except EarlyEnd Invocation
  | [] => .error .refused
  | argument :: rest =>
    let canBeName := reader.awaiting.isNone && !reader.operandsOnly
    match if canBeName then Name.ofText? argument else none with
    | some name => readTail reader.arguments name rest
    | none =>
      if canBeName && argument == "help".toList then .error (readHelp rest)
      else
        match reader.step leadingRules 0 argument with
        | .ok reader => readLeading reader rest
        | .error reason => .error reason

/-- The invocation that arguments ask for. -/
def read (arguments : List Text) : Except EarlyEnd Invocation :=
  readLeading {} arguments

end Command

end DeclAtlas
