import ClusterMetrics.Text.Percent

/-! # Query strings

A query string carries named values, joined by ampersands; name and value are told apart by the first
equals sign, a plus stands for a space, and both are percent-encoded. Raw characters beyond ASCII
arrive as the characters numbered like their UTF-8 bytes.

* **`QueryParams`**: the values in order; **`last?`** and **`all`** select by name.
* **`QueryParams.parse`** reads a query string and **`QueryParams.render`** writes one. -/

namespace ClusterMetrics

open ClusterMetrics.Text

/-- The named values of a query string, in order. -/
abbrev QueryParams := List (String × String)

namespace QueryParams

/-- The text in which every character is one byte of the UTF-8 form of the given text. -/
def byteText (s : List Char) : List Char := s.flatMap fun c => (Utf8.encodeChar c).map Char.ofNat

/-- The parts of a text between ampersands. -/
def fields : List Char → List (List Char)
  | [] => [[]]
  | c :: rest =>
    match fields rest with
    | [] => [[c]]
    | field :: more => if c = '&' then [] :: field :: more else (c :: field) :: more

/-- The reading of a name or a value. -/
def readPart (s : List Char) : String :=
  String.ofList (percentDecode (s.map fun c => if c = '+' then ' ' else c))

/-- The named value of a field; a field without equals sign names an empty value. -/
def readField (s : List Char) : String × String :=
  (readPart (s.takeWhile (· != '=')), readPart (s.dropWhile (· != '=')).tail)

/-- Reads a **query string**; empty fields are skipped. -/
def parse (s : String) : QueryParams :=
  ((fields (byteText s.toList)).filter (!·.isEmpty)).map readField

/-- The value of the **last** field of a name. -/
def last? (params : QueryParams) (name : String) : Option String :=
  (params.reverse.find? (·.1 == name)).map (·.2)

/-- The values of **all** fields of a name, in order. -/
def all (params : QueryParams) (name : String) : List String :=
  (params.filter (·.1 == name)).map (·.2)

/-- A field as it is written. -/
def renderField (field : String × String) : List Char :=
  percentEncode field.1.toList ++ '=' :: percentEncode field.2.toList

/-- Writes a **query string**. -/
def render (params : QueryParams) : String :=
  String.ofList (List.intercalate ['&'] (params.map renderField))

end QueryParams

end ClusterMetrics
