import Stencil.Evaluation.Arity

/-!
# Operations on texts

The methods of texts. They never change a text but give a new one.
-/

namespace Stencil.Evaluation

open World

/-- The names of the methods of texts. -/
def textMethodNames : List String :=
  ["capitalize", "casefold", "center", "count", "endswith", "expandtabs", "find", "index", "isalnum",
    "isalpha", "isascii", "isdecimal", "isdigit", "isidentifier", "islower", "isnumeric",
    "isprintable", "isspace", "istitle", "isupper", "join", "ljust", "lower", "lstrip", "partition",
    "removeprefix", "removesuffix", "replace", "rfind", "rindex", "rjust", "rpartition", "rsplit",
    "rstrip", "split", "splitlines", "startswith", "strip", "swapcase", "title", "upper", "zfill"]

/-- A text as a value. -/
def ofChars (cs : List Char) : Value := .str (String.ofList cs)

/-- A list of texts. -/
def textList (pieces : List (List Char)) : Action Value := newList (pieces.map ofChars)

/-- The text that an argument has to be. -/
def textArgument (v : Value) (report : String → String) : Action (List Char) := do
  match v.text? with
  | some s => return s.toList
  | none => typeError (report (← typeName v))

/-- Whether every cased character is upper and some is. -/
def isUpperText (s : List Char) : Bool :=
  s.any Text.isUpperChar && !s.any fun c => Text.isLowerChar c || Text.isTitleChar c

/-- Whether every cased character is lower and some is. -/
def isLowerText (s : List Char) : Bool :=
  s.any Text.isLowerChar && !s.any fun c => Text.isUpperChar c || Text.isTitleChar c

/-- Whether every word begins with an upper character and goes on with lower ones. -/
def isTitleText (s : List Char) : Bool :=
  let step (acc : Bool × Bool × Bool) (c : Char) : Bool × Bool × Bool :=
    let (fine, cased, inside) := acc
    if Text.isUpperChar c || Text.isTitleChar c then (fine && !inside, true, true)
    else if Text.isLowerChar c then (fine && inside, true, true)
    else (fine, cased, false)
  let (fine, cased, _) := s.foldl step (true, false, false)
  fine && cased

/-- A text with its tabs as spaces up to the next multiple of a width. -/
def expandTabs (width : Int) (column : Nat) : List Char → List Char
  | [] => []
  | '\t' :: cs =>
    if width ≤ 0 then expandTabs width column cs
    else
      let n := width.toNat - column % width.toNat
      List.replicate n ' ' ++ expandTabs width (column + n) cs
  | c :: cs => c :: expandTabs width (if c == '\n' || c == '\r' then 0 else column + 1) cs

/-- A text in the middle of a wider one. -/
def centered (s : List Char) (width : Int) (fill : Char) : List Char :=
  let pad := (width - s.length).toNat
  let left := pad / 2 + if pad % 2 == 1 && width % 2 != 0 then 1 else 0
  List.replicate left fill ++ s ++ List.replicate (pad - left) fill

/-- A number padded with zeros after its sign. -/
def zeroFilled (s : List Char) (width : Int) : List Char :=
  let zeros := List.replicate (width - s.length).toNat '0'
  match s with
  | c :: cs => if c == '+' || c == '-' then c :: zeros ++ cs else zeros ++ s
  | [] => zeros

/-- Whether a text begins or ends with another one, or with one of several. -/
def testEdge (name : String) (test : List Char → List Char → Bool) (s : List Char)
    (args : List Value) : Action Value := do
  let (start, stop) ← bounds s.length (args.drop 1)
  let fits := start ≤ stop
  let part := (s.take stop).drop start
  match args with
  | .tuple options :: _ =>
    let found ← options.anyM fun o => do
      let t ← textArgument o fun t =>
        "tuple for " ++ name ++ " must only contain str, not " ++ t
      return fits && test t part
    return .bool found
  | v :: _ =>
    let t ← textArgument v fun t =>
      name ++ " first arg must be str or a tuple of str, not " ++ t
    return .bool (fits && test t part)
  | [] => return .bool false

/-- Where a text occurs between two bounds. -/
def occurrence? (last : Bool) (s : List Char) (args : List Value) : Action (Option Nat) := do
  let needle ← textArgument (args.headD .none) fun t => "must be str, not " ++ t
  let (start, stop) ← bounds s.length (args.drop 1)
  if start > stop then return none
  else
    let part := (s.take stop).drop start
    return if last then Text.findLastFrom needle part start else Text.findFrom needle part start

/-- How often something may be done; below zero means as often as possible. -/
def limitOf (s : List Char) (n : Int) : Nat := if n < 0 then s.length + 1 else n.toNat

/-- The arguments of cutting a text: the separator and how often it may be cut. -/
def cutArguments (name : String) (s : List Char) (args : Arguments) :
    Action (Option (List Char) × Nat) := do
  match ← namedArguments name ["sep", "maxsplit"] args with
  | sep :: limit :: _ =>
    let limit ← match limit with
      | some v => limitOf s <$> integerArgument v
      | none => pure (s.length + 1)
    match sep with
    | none | some .none => return (none, limit)
    | some v =>
      let t ← textArgument v fun t => "must be str or None, not " ++ t
      if t.isEmpty then valueError "empty separator" else return (some t, limit)
  | _ => return (none, s.length + 1)

/-- Call a method of a text. -/
def textMethod (m : Interpreter) (text name : String) (args : Arguments) : Action Value := do
  let s := text.toList
  let owned := "str." ++ name
  let plain (r : Value) : Action Value := do
    noArguments owned args
    return r
  let check (b : Bool) : Action Value := plain (.bool b)
  let all (p : Char → Bool) : Action Value := check (!s.isEmpty && s.all p)
  let positional := positionalArguments "str." name
  let width : Action (Int × Char) := do
    let items ← positional 1 2 args
    let fill ← match items[1]? with
      | none => pure ' '
      | some v =>
        match v.text?.map String.toList with
        | some [c] => pure c
        | some _ => typeError "The fill character must be exactly one character long"
        | none =>
          typeError ("The fill character must be a unicode character, not " ++ (← typeName v))
    return (← integerArgument (items.headD .none), fill)
  let trimming (f : (Char → Bool) → List Char) : Action Value := do
    match ← positional 0 1 args with
    | [] | [.none] => return ofChars (f Text.isBlank)
    | v :: _ =>
      let set ← textArgument v fun _ => name ++ " arg must be None or str"
      return ofChars (f set.contains)
  match name with
  | "upper" => plain (.str (Text.upper text))
  | "lower" => plain (.str (Text.lower text))
  | "casefold" => plain (.str (Text.lower text))
  | "capitalize" => plain (.str (Text.capitalize text))
  | "title" => plain (.str (Text.title text))
  | "swapcase" => plain (.str (Text.swapCase text))
  | "isalnum" => all Text.isAlphanumeric
  | "isalpha" => all Text.isLetter
  | "isdecimal" => all Text.isDecimal
  | "isdigit" => all Text.isDigit
  | "isnumeric" => all Text.isNumeral
  | "isspace" => all Text.isBlank
  | "isascii" => check (s.all fun c => c.toNat < 128)
  | "isprintable" => check (s.all Text.isPrintable)
  | "isidentifier" => check (Text.isName s)
  | "isupper" => check (isUpperText s)
  | "islower" => check (isLowerText s)
  | "istitle" => check (isTitleText s)
  | "strip" => trimming fun p => Text.trim p s
  | "lstrip" => trimming fun p => s.dropWhile p
  | "rstrip" => trimming fun p => Text.trimEnd p s
  | "join" =>
    let v ← oneArgument owned args
    let it ← match ← iterator? v with
      | some it => pure it
      | none => typeError "can only join an iterable"
    let items ← drain m it
    let pieces ← items.zipIdx.mapM fun p => textArgument p.1 fun t =>
      "sequence item " ++ Text.natText p.2 ++ ": expected str instance, " ++ t ++ " found"
    return ofChars (Text.joinWith s pieces)
  | "split" =>
    match ← cutArguments name s args with
    | (none, limit) => textList (Text.wordsUpTo limit s)
    | (some sep, limit) => textList (Text.cutAtText sep limit s)
  | "rsplit" =>
    match ← cutArguments name s args with
    | (none, limit) => textList (Text.wordsUpToRight limit s)
    | (some sep, limit) => textList (Text.cutAtTextRight sep limit s)
  | "splitlines" =>
    match ← namedArguments name ["keepends"] args with
    | some v :: _ => textList (Text.splitLines (← truth v) [] s)
    | _ => textList (Text.splitLines false [] s)
  | "replace" =>
    let items ← positional 2 3 args
    let argument (i : Nat) : Action (List Char) :=
      textArgument (items[i]?.getD .none) fun t =>
        "replace() argument " ++ Text.natText (i + 1) ++ " must be str, not " ++ t
    let old ← argument 0
    let new ← argument 1
    let limit ← match items[2]? with
      | some v => limitOf s <$> integerArgument v
      | none => pure (s.length + 1)
    return ofChars (Text.replace old new limit s)
  | "startswith" => testEdge name List.isPrefixOf s (← positional 1 3 args)
  | "endswith" => testEdge name List.isSuffixOf s (← positional 1 3 args)
  | "find" | "rfind" =>
    match ← occurrence? (name == "rfind") s (← positional 1 3 args) with
    | some n => return .int n
    | none => return .int (-1)
  | "index" | "rindex" =>
    match ← occurrence? (name == "rindex") s (← positional 1 3 args) with
    | some n => return .int n
    | none => valueError "substring not found"
  | "count" =>
    let items ← positional 1 3 args
    let needle ← textArgument (items.headD .none) fun t => "must be str, not " ++ t
    let (start, stop) ← bounds s.length (items.drop 1)
    if start > stop then return .int 0
    else return .int (Text.countOccurrences needle ((s.take stop).drop start))
  | "center" =>
    let (n, fill) ← width
    return ofChars (centered s n fill)
  | "ljust" =>
    let (n, fill) ← width
    return ofChars (s ++ List.replicate (n - s.length).toNat fill)
  | "rjust" =>
    let (n, fill) ← width
    return ofChars (List.replicate (n - s.length).toNat fill ++ s)
  | "zfill" => return ofChars (zeroFilled s (← integerArgument (← oneArgument owned args)))
  | "expandtabs" =>
    match ← namedArguments name ["tabsize"] args with
    | some v :: _ => return ofChars (expandTabs (← integerArgument v) 0 s)
    | _ => return ofChars (expandTabs 8 0 s)
  | "partition" | "rpartition" =>
    let v ← oneArgument owned args
    let sep ← textArgument v fun t => "must be str, not " ++ t
    if sep.isEmpty then valueError "empty separator"
    else
      let last := name == "rpartition"
      match if last then Text.findLastFrom sep s 0 else Text.findFrom sep s 0 with
      | some i =>
        return .tuple [ofChars (s.take i), ofChars sep, ofChars (s.drop (i + sep.length))]
      | none =>
        let empty : Value := .str ""
        return .tuple (if last then [empty, empty, .str text] else [.str text, empty, empty])
  | "removeprefix" =>
    let t ← textArgument (← oneArgument owned args) fun t =>
      "removeprefix() argument must be str, not " ++ t
    return ofChars (if t.isPrefixOf s then s.drop t.length else s)
  | "removesuffix" =>
    let t ← textArgument (← oneArgument owned args) fun t =>
      "removesuffix() argument must be str, not " ++ t
    return ofChars (if t.isSuffixOf s then s.take (s.length - t.length) else s)
  | _ => raiseText "AttributeError" ("'str' object has no attribute '" ++ name ++ "'")

end Stencil.Evaluation
