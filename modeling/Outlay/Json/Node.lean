import Outlay.Json.Problem

/-!
JSON texts as trees. Every text has a tree: where it goes wrong the tree has a broken node or an
array or object without its end, and says which fault there is. A reader that walks the tree from
left to right meets the faults in the order in which they stand in the text.
-/

namespace Outlay.Json

/-- What stands where the name of a member has to. -/
inductive Key where
  | string (s : RawString)
  /-- No string, whatever else there is. -/
  | broken (f : Fault)

mutual

inductive Node where
  | null
  | bool (b : Bool)
  | number (n : Except Fault Numeral)
  | string (s : RawString)
  | misspelt (f : Fault)
  | array (items : Items)
  | object (members : Members)
  /-- No value, though there has to be one. -/
  | broken (f : Fault)

/-- The items of an array that are still to come, and how it ends. -/
inductive Items where
  | done (fault : Option Fault)
  | item (n : Node) (rest : Items)

inductive Members where
  | done (fault : Option Fault)
  | member (key : Key) (value : Node) (rest : Members)

end

/-- Puts items, the last of them first, in front of others. -/
def Items.ofReverse (before : List Node) (rest : Items) : Items :=
  before.foldl (fun rest n => .item n rest) rest

def Members.ofReverse (before : List (Key × Node)) (rest : Members) : Members :=
  before.foldl (fun rest m => .member m.1 m.2 rest) rest

/-- The surrogates of UTF-16, which stand for a character in pairs only. -/
def isHighSurrogate (n : Nat) : Bool := 0xD800 ≤ n && n ≤ 0xDBFF

def isLowSurrogate (n : Nat) : Bool := 0xDC00 ≤ n && n ≤ 0xDFFF

def pairChar (high low : Nat) : Char :=
  Char.ofNat ((high - 0xD800) * 0x400 + (low - 0xDC00) + 0x10000)

/-- The text of string units, if `fault` follows them. -/
def readUnits (fault : Option Fault) : List StringUnit → Except Fault (List Char)
  | [] =>
    match fault with
    | none => .ok []
    | some f => .error f
  | .char c :: rest => (readUnits fault rest).map (c :: ·)
  | [.code n] =>
    if isLowSurrogate n then .error .malformed
    else if isHighSurrogate n then .error (fault.getD .malformed)
    else (readUnits fault []).map (Char.ofNat n :: ·)
  | .code n :: .code m :: rest =>
    if isLowSurrogate n then .error .malformed
    else if isHighSurrogate n then
      if isLowSurrogate m then (readUnits fault rest).map (pairChar n m :: ·)
      else .error .malformed
    else (readUnits fault (.code m :: rest)).map (Char.ofNat n :: ·)
  | .code n :: .char c :: rest =>
    if isLowSurrogate n || isHighSurrogate n then .error .malformed
    else (readUnits fault (.char c :: rest)).map (Char.ofNat n :: ·)

def RawString.read (s : RawString) : Except Fault String :=
  (readUnits s.fault s.units).map String.ofList

/-- Whole numbers of 64 bits stay whole, all others are floats, and `-0` is one too. No number may
be too large for a float. -/
def Numeral.read (n : Numeral) : Except Fault Number :=
  let float (d : Decimal) : Except Fault Number :=
    if d.toFloat.isInf then .error .malformed else .ok (.float d.toFloat)
  match n with
  | whole false n => if n < UInt64.size then .ok (.integer n) else float ⟨false, n, 0⟩
  | whole true n => if 0 < n && isInt64 (-n) then .ok (.integer (-n)) else float ⟨true, n, 0⟩
  | decimal d => float d

def readNumber (n : Except Fault Numeral) : Except Fault Number := n.bind Numeral.read

/-- Reads no further than the front of an array or object. -/
def Node.kind : Node → Read Kind
  | null => .ok .null
  | bool b => .ok (.bool b)
  | number n => ((readNumber n).map Kind.ofNumber).mapError .fault
  | string s => (s.read.map Kind.text).mapError .fault
  | array _ => .ok .sequence
  | object _ => .ok .map
  | misspelt f => spoiled f
  | broken f => spoiled f

/-- An open bracket that encloses the place where a text is being read. -/
inductive Frame where
  | array (before : List Node)
  | object (before : List (Key × Node)) (key : Key)

/-- What has to come next. -/
inductive Expected where
  | value
  | itemOrEnd
  | keyOrEnd
  | key (before : List (Key × Node))
  | colon (before : List (Key × Node)) (key : Key)
  | commaOrArrayEnd (before : List Node)
  | commaOrObjectEnd (before : List (Key × Node))

/-- A text read so far. -/
inductive Progress where
  | reading (next : Expected) (frames : List Frame)
  /-- The value is complete; something may follow it. -/
  | finished (value : Node) (trailing : Bool)

namespace Progress

def start : Progress := reading .value []

/-- The whole tree around a node behind which nothing can be read. -/
def enclose (f : Fault) : List Frame → Node → Node
  | [], n => n
  | .array before :: frames, n =>
    enclose f frames (.array (.ofReverse before (.item n (.done (some f)))))
  | .object before key :: frames, n =>
    enclose f frames (.object (.ofReverse before (.member key n (.done (some f)))))

def stop (f : Fault) (frames : List Frame) (n : Node) : Progress :=
  finished (enclose f frames n) false

/-- Goes on behind a value. -/
def supply (frames : List Frame) (n : Node) : Progress :=
  match frames with
  | [] => finished n false
  | .array before :: frames => reading (.commaOrArrayEnd (n :: before)) frames
  | .object before key :: frames => reading (.commaOrObjectEnd ((key, n) :: before)) frames

/-- Takes the first word of a value. -/
def enter (frames : List Frame) (l : Lexeme) : Progress :=
  match l with
  | .null => supply frames .null
  | .bool b => supply frames (.bool b)
  | .number n => supply frames (.number n)
  | .string s => supply frames (.string s)
  | .misspelt f => supply frames (.misspelt f)
  | .openArray => reading .itemOrEnd frames
  | .openObject => reading .keyOrEnd frames
  | _ => stop .malformed frames (.broken .malformed)

def stopInObject (f : Fault) (frames : List Frame) (before : List (Key × Node)) (key : Key) :
    Progress :=
  stop f (.object before key :: frames) (.broken f)

def enterKey (frames : List Frame) (before : List (Key × Node)) (l : Lexeme) : Progress :=
  match l with
  | .string s => reading (.colon before (.string s)) frames
  | _ => stopInObject .malformed frames before (.broken .malformed)

def step (p : Progress) (l : Lexeme) : Progress :=
  match p with
  | finished n _ => finished n true
  | reading next frames =>
    match next, l with
    | .value, l => enter frames l
    | .itemOrEnd, .closeArray => supply frames (.array (.done none))
    | .itemOrEnd, l => enter (.array [] :: frames) l
    | .keyOrEnd, .closeObject => supply frames (.object (.done none))
    | .keyOrEnd, l => enterKey frames [] l
    | .key before, l => enterKey frames before l
    | .colon before key, .colon => reading .value (.object before key :: frames)
    | .colon before key, _ => stopInObject .malformed frames before key
    | .commaOrArrayEnd before, .comma => reading .value (.array before :: frames)
    | .commaOrArrayEnd before, .closeArray =>
      supply frames (.array (.ofReverse before (.done none)))
    | .commaOrArrayEnd before, _ =>
      stop .malformed frames (.array (.ofReverse before (.done (some .malformed))))
    | .commaOrObjectEnd before, .comma => reading (.key before) frames
    | .commaOrObjectEnd before, .closeObject =>
      supply frames (.object (.ofReverse before (.done none)))
    | .commaOrObjectEnd before, _ =>
      stop .malformed frames (.object (.ofReverse before (.done (some .malformed))))

/-- The text ends here. -/
def finish : Progress → Node × Bool
  | finished n trailing => (n, trailing)
  | reading next frames =>
    let cut (n : Node) : Node × Bool := (enclose .truncated frames n, false)
    let cutMember (before : List (Key × Node)) (key : Key) : Node :=
      .object (.ofReverse before (.member key (.broken .truncated) (.done (some .truncated))))
    match next with
    | .value => cut (.broken .truncated)
    | .itemOrEnd => cut (.array (.done (some .truncated)))
    | .keyOrEnd => cut (.object (.done (some .truncated)))
    | .key before => cut (cutMember before (.broken .truncated))
    | .colon before key => cut (cutMember before key)
    | .commaOrArrayEnd before => cut (.array (.ofReverse before (.done (some .truncated))))
    | .commaOrObjectEnd before => cut (.object (.ofReverse before (.done (some .truncated))))

end Progress

/-- A text: its first value, and whether more follows it. -/
structure Document where
  value : Node
  trailing : Bool

def Document.ofChars (s : List Char) : Document :=
  let (value, trailing) := ((lexemes s).foldl Progress.step .start).finish
  { value, trailing }

/-- Reads the one value that a text has to consist of. -/
def Document.read {α : Type} (d : Document) (value : Node → Read α) : Read α := do
  let a ← value d.value
  if d.trailing then spoiled .malformed else return a

/-- Reads a value from a text. -/
def readText {α : Type} (value : Node → Read α) (text : String) : Read α :=
  (Document.ofChars text.toList).read value

end Outlay.Json
