import Transplant.Number.Numeral
import Transplant.Text.Utf8

/-!
# Faults of documents

Why a document cannot be read: what was found or missing, where, and what was being read. The words
of a fault name the file and count lines and columns from one; the place where the reading of the
surrounding part began is told only if it is another one.
-/

namespace Transplant.Yaml

/-- A place in a document, whose lines and columns count from zero. -/
structure Mark where
  line : Nat
  column : Nat
deriving DecidableEq, Repr, Inhabited

/-- The words for a place in a file. -/
def Mark.message (m : Mark) (file : String) : String :=
  "  in \"" ++ file ++ "\", line " ++ Text.decimal (m.line + 1) ++ ", column " ++ Text.decimal (m.column + 1)

/-! ## What was being read -/

/-- What was being done with a part of a document. -/
inductive Activity where
  | scanning
  | parsing
  | constructing
deriving DecidableEq, Repr

/-- The word for an activity. -/
def Activity.name : Activity → String
  | .scanning => "scanning"
  | .parsing => "parsing"
  | .constructing => "constructing"

/-- What a fault stands in: an activity and its subject, the first use of an anchor, or the whole
stream. -/
inductive Context where
  | during (activity : Activity) (subject : String)
  | firstOccurrence (anchor : List Char)
  | stream
deriving DecidableEq, Repr

/-- The words for a context. -/
def Context.message : Context → String
  | .during activity subject => "while " ++ activity.name ++ " " ++ subject
  | .firstOccurrence anchor =>
    "found duplicate anchor " ++ Text.quoted (String.ofList anchor) ++ "; first occurrence"
  | .stream => "expected a single document in the stream"

/-! ## What was wrong -/

/-- What stands in a place: a character, a piece of the document or a kind of node. -/
inductive Found where
  | char (c : Char)
  | piece (name : String)
  | node (kind : String)
  | zero
  | items (n : Nat)
deriving DecidableEq, Repr

/-- The words for what stands in a place. -/
def Found.message : Found → String
  | .char c => Text.quoted (String.singleton c)
  | .piece name => Text.quoted name
  | .node kind => kind
  | .zero => "0"
  | .items n => Text.decimal n ++ " items"

/-- Why a base-64 text holds no bytes. -/
inductive Base64Fault where
  | characters (cs : List Char) (position : Nat)
  | padding
  | length (digits : Nat)
deriving DecidableEq, Repr

/-- A character by its number in two, four or eight hexadecimal digits, between quotes. -/
def numbered (c : Char) : String :=
  let n := c.toNat
  let escape :=
    if n < 0x100 then 'x' :: Text.hex false 2 n
    else if n < 0x10000 then 'u' :: Text.hex false 4 n
    else 'U' :: Text.hex false 8 n
  String.ofList ('\'' :: '\\' :: escape ++ ['\''])

/-- The words for a fault of a base-64 text. -/
def Base64Fault.message : Base64Fault → String
  | .characters cs position =>
    let place := match cs with
      | [c] => "character " ++ numbered c ++ " in position " ++ Text.decimal position
      | _ => "characters in position " ++ Text.decimal position ++ "-" ++
          Text.decimal (position + cs.length - 1)
    "failed to convert base64 data into ascii: 'ascii' codec can't encode " ++ place ++
      ": ordinal not in range(128)"
  | .padding => "failed to decode base64 data: Incorrect padding"
  | .length digits =>
    "failed to decode base64 data: Invalid base64-encoded string: number of data characters (" ++
      Text.decimal digits ++ ") cannot be 1 more than a multiple of 4"

/-- What is wrong at a place. -/
inductive Problem where
  | noColon
  | misplaced (what : String)
  | noToken (c : Char)
  | expected (what : String) (found : Found)
  | noSeparator (closing : Char) (found : String)
  | endInQuotes
  | edgeInQuotes
  | unknownEscape (c : Char)
  | badEscape (why : Text.Utf8Error)
  | secondVersion
  | futureVersion
  | secondHandle (handle : List Char)
  | unknownHandle (handle : List Char)
  | unknownAlias (name : List Char)
  | secondOccurrence
  | secondDocument
  | unknownTag (name : List Char)
  | unusableKey
  | base64 (why : Base64Fault)
deriving DecidableEq, Repr

/-- The words for what is wrong. -/
def Problem.message : Problem → String
  | .noColon => "could not find expected ':'"
  | .misplaced what => what ++ " are not allowed here"
  | .noToken c => "found character " ++ Text.quoted (String.singleton c) ++ " that cannot start any token"
  | .expected what found => "expected " ++ what ++ ", but found " ++ found.message
  | .noSeparator closing found =>
    "expected ',' or '" ++ String.singleton closing ++ "', but got " ++ Text.quoted found
  | .endInQuotes => "found unexpected end of stream"
  | .edgeInQuotes => "found unexpected document separator"
  | .unknownEscape c => "found unknown escape character " ++ Text.quoted (String.singleton c)
  | .badEscape why => why.message
  | .secondVersion => "found duplicate YAML directive"
  | .futureVersion => "found incompatible YAML document (version 1.* is required)"
  | .secondHandle handle => "duplicate tag handle " ++ Text.quoted (String.ofList handle)
  | .unknownHandle handle => "found undefined tag handle " ++ Text.quoted (String.ofList handle)
  | .unknownAlias name => "found undefined alias " ++ Text.quoted (String.ofList name)
  | .secondOccurrence => "second occurrence"
  | .secondDocument => "but found another document"
  | .unknownTag name =>
    "could not determine a constructor for the tag " ++ Text.quoted (String.ofList name)
  | .unusableKey => "found unhashable key"
  | .base64 why => why.message

/-! ## Faults -/

/-- Why the text of a scalar is no value of its type. -/
inductive ScalarFault where
  | numeral (why : Numeral.Fault)
  | real (text : List Char)
  | noDigits
  | noWord (text : String)
  | noTime
  | entries
  | endless
  | outOfRange (why : String)
  | overflow (why : String)
deriving DecidableEq, Repr

/-- The words for a fault of a scalar. -/
def ScalarFault.message : ScalarFault → String
  | .numeral why => why.message
  | .real text => "could not convert string to float: " ++ Text.quoted (String.ofList text)
  | .noDigits => "string index out of range"
  | .noWord text => Text.quoted text
  | .noTime => "'NoneType' object has no attribute 'groupdict'"
  | .entries => "expected string or bytes-like object, got 'list'"
  | .endless => "maximum recursion depth exceeded"
  | .outOfRange why | .overflow why => why

/-- Why a document cannot be read. -/
inductive Fault where
  | undecodable (why : Text.Utf8Error)
  | unacceptable (c : Char) (position : Nat)
  | found (problem : Problem) (mark : Mark) (context : Option (Context × Option Mark))
  | scalar (why : ScalarFault)
deriving DecidableEq, Repr

/-- The words for a fault of the document in a file. -/
def Fault.message (file : String) : Fault → String
  | .undecodable why => why.message
  | .unacceptable c position =>
    "unacceptable character #x" ++ String.ofList (Text.hex false 4 c.toNat) ++
      ": special characters are not allowed\n  in \"" ++ file ++ "\", position " ++ Text.decimal position
  | .found problem mark context =>
    let before := match context with
      | none => []
      | some (what, none) => [what.message]
      | some (what, some start) =>
        what.message :: if start == mark then [] else [start.message file]
    "\n".intercalate (before ++ [problem.message, mark.message file])
  | .scalar why => why.message

end Transplant.Yaml
