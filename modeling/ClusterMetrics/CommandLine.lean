import ClusterMetrics.Decimal.Reading

/-! # The command line

The server is started with `-c` or `--config` and the path of a configuration, or asked for help with
`-h` or `--help`. A value stands in the next word, or in the same one: behind an equals sign, or right
behind a short option. Long options may be cut short as long as they are told apart, and short ones may
share a word. Nothing else is allowed; of several paths the last counts.

* **`Word`**: what one word stands for; **`Word.ofText`** tells. **`CommandLine`**: what was asked for.
* **`CommandLine.parse`**: the meaning of all words. -/

namespace ClusterMetrics

open ClusterMetrics.Text

/-- The **options**. -/
inductive OptionName
  | help
  | config
  deriving DecidableEq, Repr

/-- The option of a short name. -/
def OptionName.ofShort? (c : Char) : Option OptionName :=
  if c = 'h' then some .help else if c = 'c' then some .config else none

/-- The long names of the options. -/
def longNames : List (String × OptionName) := [("--help", .help), ("--config", .config)]

/-- What **one word** stands for. -/
inductive Word
  /-- A value, or a word out of place. -/
  | plain (text : String)
  /-- The mark behind which all words are plain. -/
  | separator
  | long (name : OptionName) (attached : Option String)
  /-- A short option, and what stands right behind it. -/
  | short (name : OptionName) (tail : List Char)
  /-- An option that there is not. -/
  | unknown
  /-- A name that is cut so short that it fits several options. -/
  | ambiguous
  deriving DecidableEq, Repr

namespace Word

/-- A word that looks like a negative number. -/
def isNegativeNumber : List Char → Bool
  | '-' :: rest =>
    let rest := if rest.getLast? = some '\n' then rest.dropLast else rest
    match rest.dropWhile isDigit with
    | [] => !rest.isEmpty
    | '.' :: fraction => !fraction.isEmpty && fraction.all isDigit
    | _ => false
  | _ => false

/-- The text before the first equals sign, and behind it if there is one. -/
def splitEquals (text : String) : String × Option String :=
  match text.splitOn "=" with
  | head :: second :: more => (head, some (String.intercalate "=" (second :: more)))
  | _ => (text, none)

/-- The meaning of a word that begins with two dashes. -/
def ofLong (text : String) : Word :=
  let (name, attached) := splitEquals text
  match longNames.lookup name with
  | some option => .long option attached
  | none =>
    match longNames.filter fun o => name.isPrefixOf o.1 with
    | [] => if text.contains ' ' then .plain text else .unknown
    | [(_, option)] => .long option attached
    | _ => .ambiguous

/-- The meaning of a word that begins with one dash and a character. -/
def ofShort (text : String) (c : Char) (tail : List Char) : Word :=
  match OptionName.ofShort? c with
  | some option => .short option tail
  | none => if isNegativeNumber text.toList || text.contains ' ' then .plain text else .unknown

/-- The **meaning of a word**. -/
def ofText (text : String) : Word :=
  match text.toList with
  | ['-', '-'] => .separator
  | '-' :: '-' :: _ => ofLong text
  | '-' :: c :: tail => ofShort text c tail
  | _ => .plain text

end Word

/-- What was **asked for**. -/
inductive CommandLine
  | help
  | run (config : Option String)
  /-- The words make no sense. -/
  | refused
  deriving DecidableEq, Repr

namespace CommandLine

/-- How the server is **started**. -/
def usage : List String :=
  ["usage: clusterscope [-h] [-c CONFIG]",
   "",
   "clusterscope read API",
   "",
   "options:",
   "  -h, --help            show this help message and exit",
   "  -c CONFIG, --config CONFIG",
   "                        Path to YAML config"]

/-- Whether the next word can be a value. -/
def hasValue : List Word → Bool
  | .plain _ :: _ => true
  | _ => false

/-- The request of the option for help, with other short options behind it in the same word. -/
def sharedHelp (next : List Word) : List Char → CommandLine
  | [] => help
  | c :: tail =>
    if c = '=' ∨ c = '-' then refused
    else
      match OptionName.ofShort? c with
      | some .help => sharedHelp next tail
      | some .config => if tail.isEmpty && !hasValue next then refused else help
      | none => help

/-- The value that stands right behind a short option, perhaps behind an equals sign. -/
def tailValue : List Char → String
  | '=' :: value => String.ofList value
  | value => String.ofList value

/-- The meaning of words behind a path, if there is one, and behind words out of place. -/
def read : Option String → Bool → List Word → CommandLine
  | config, stray, [] => if stray then refused else run config
  | config, _, .plain _ :: words => read config true words
  | config, _, .unknown :: words => read config true words
  | _, _, .ambiguous :: _ => refused
  | _, _, .separator :: _ => refused
  | _, _, .long .help none :: _ => help
  | _, _, .long .help (some _) :: _ => refused
  | _, _, .short .help tail :: words => sharedHelp words tail
  | _, stray, .long .config (some value) :: words => read (some value) stray words
  | _, stray, .long .config none :: .plain value :: words => read (some value) stray words
  | _, _, .long .config none :: _ => refused
  | _, stray, .short .config [] :: .plain value :: words => read (some value) stray words
  | _, _, .short .config [] :: _ => refused
  | _, stray, .short .config (c :: tail) :: words => read (some (tailValue (c :: tail))) stray words

/-- The words before the mark behind which all words are plain. -/
def beforeSeparator (words : List Word) : List Word := words.takeWhile (· != .separator)

/-- The **meaning of all words**. A name that fits several options spoils them all. -/
def parse (texts : List String) : CommandLine :=
  let words := texts.map Word.ofText
  if (beforeSeparator words).contains .ambiguous then refused else read none false words

end CommandLine

end ClusterMetrics
