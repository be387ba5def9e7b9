import Osc.Text.Utf8
import Osc.Value.Shown

/-!
Everything that can go wrong, by cause. Each fault keeps what it is about; the
wording of all of them is in the `message` functions and nowhere else.
-/

namespace Osc

open Text (ofString)

/-- A value of the wrong type for what is done with it; types are given by name. -/
inductive TypeFault where
  | notOrdered (left right : String)
  | notContainer (type : String)
  | notIterable (type : String)
  | notBytesLike (type : String)
  | noLength (type : String)
  | notCharacter (type : String)
  | notIndex (type : String)
  | notConvertible (type target : String)
  | notSubscriptable (type : String)
  | notStart (type : String)
  | noOperator (symbol left right : String)
  | notNumber (type : String)
  | notBytes (type : String)
  | notBuffer (type : String)
  | textWithoutEncoding
  | unhashable (type : String)
  | notTextItem (place : Nat) (type : String)
  | unexpectedSetting (name : Text)
  | notMapping (type : String)
  | notSortable (left right : String)
  | missingFields (type : String) (names : List String)
  | tooManyFields (type : String) (least most given : Nat)
  | notBytesStart (type : String)
  | notStartItem (type : String)
  | notJoined (added type : String)
  | dateWithDateTime
  | mixedOffsets

/-- A number that does not fit a fixed width field. -/
inductive PackFault where
  | notInteger
  | notReal
  | outsideInt32
  | outsideInt64
  | intTooLarge

inductive OverflowFault where
  | single
  | intToDouble
  | quotient
  | infiniteToInt
  | tooLargeForSize
  | bytesTooLong

/-- What can go wrong with one field that holds a value of the wrong type or size. -/
inductive FieldFault where
  | type (fault : TypeFault)
  | attribute (owner name : String)
  | pack (fault : PackFault)
  | overflow (fault : OverflowFault)

inductive ValueFault where
  | notHostPort (address : Text)
  | notNumeral (shown : Text)
  | numeralTooLong (digits : Nat)
  | nanToInt
  | byteRange
  | negativeCount
  | tooLargeForSize
  | datagramSize (given : Value)
  | unknownSettings (path : Text) (names : List Text)
  | notDatagram (kind : String) (number : Int)
  | described (text : Text)

inductive RuntimeFault where
  | alreadyReceiving
  | alreadyReleased
  | releasedTooOften

/-- A packet that has no wire form. -/
inductive EncodeFault where
  | nulInString (value : Value)
  | timetagRange (value : Value)
  | componentRange (kind : QuadKind) (components : List Value)
  | charLength (value : Value)
  | notArgument (value : Value)
  | notPacket (type : String)
  | address (value : Value)
  | argument (address : Text) (cause : FieldFault)
  | timetag (value : Value) (cause : FieldFault)
  | described (text : Text)

/-- Bytes that are the wire form of no packet. -/
inductive DecodeFault where
  | empty
  | unknownStart (start : Bytes)
  | truncated (need offset available : Nat)
  | unterminated (offset : Nat)
  | invalidUtf8 (cause : Utf8.Malformed)
  | negativeBlob (size : Int)
  | invalidChar (code : Nat)
  | unknownTag (tag : CodePoint)
  | tagStart (tags : Text)
  | unbalancedClose
  | unbalancedOpen
  | trailing (count : Nat) (address : Text)
  | elementSize (size : Int) (remaining : Nat)
  | tooDeep
  | described (text : Text)

/-- The packet levels that decoding accepts inside one another. -/
def maxBundleDepth : Nat := 64

/-- A failure reported by the operating system, with the arguments it was given. -/
structure OsError where
  arguments : List Value

/-- A failure of the network layer, as the users of a socket see it. -/
inductive TransportFault where
  | senderClosed
  | socketClosed
  | partlySent (sent : Int) (size : Nat)
  | send (cause : OsError)
  | sendTo (address : Value) (cause : OsError)
  | connect (address : Value) (cause : OsError)
  | bind (address : Value) (cause : OsError)
  | receive (cause : OsError)
  | localAddress (cause : OsError)
  | peerAddress (cause : OsError)
  | described (text : Text) (cause : Option OsError)

/-- The families of the faults that this library raises itself, each below the next
more general one. -/
inductive Family where
  | any
  | transport
  | protocol
  | encode
  | decode
  | truncated
deriving DecidableEq

def Family.name : Family → String
  | .any => "OscError"
  | .transport => "TransportError"
  | .protocol => "ProtocolError"
  | .encode => "EncodeError"
  | .decode => "DecodeError"
  | .truncated => "TruncatedDatagramError"

/-- A family and those above it, the most general one last. -/
def Family.line : Family → List Family
  | .any => [.any]
  | .transport => [.transport, .any]
  | .protocol => [.protocol, .any]
  | .encode => [.encode, .protocol, .any]
  | .decode => [.decode, .protocol, .any]
  | .truncated => [.truncated, .decode, .protocol, .any]

inductive Fault where
  | plain (family : Family) (text : Text)
  | field (fault : FieldFault)
  | value (fault : ValueFault)
  | index (type : String)
  | noSocket (type : String)
  | unknownKey (key : Value)
  | surrogates (run : Utf8.SurrogateRun)
  | runtime (fault : RuntimeFault)
  | encode (fault : EncodeFault)
  | decode (fault : DecodeFault)
  | cut (capacity : Value)
  | transport (fault : TransportFault)
  | os (error : OsError)
  | memory

abbrev Fault.type (fault : TypeFault) : Fault := .field (.type fault)

abbrev Fault.pack (fault : PackFault) : Fault := .field (.pack fault)

abbrev Fault.overflow (fault : OverflowFault) : Fault := .field (.overflow fault)

/-- A failure of the system seen as a failure of the network layer; other faults stay. -/
def Fault.wrapOs (wrap : OsError → TransportFault) : Fault → Fault
  | .os error => .transport (wrap error)
  | fault => fault

namespace OsError

/-- Whether the arguments start with a number and a text: there are two to five of them. -/
def isNumbered (e : OsError) : Bool := 2 ≤ e.arguments.length && e.arguments.length ≤ 5

/-- The number of the failure. -/
def errno (e : OsError) : Value := if e.isNumbered then e.arguments.headD .none else .none

/-- The files that a failure is about, as they follow its text. -/
def filesShown : List Value → Text
  | [] | .none :: _ => []
  | [file, _, .none] => ofString ": " ++ file.shown
  | [file, _, second] => ofString ": " ++ file.shown ++ ofString " -> " ++ second.shown
  | file :: _ => ofString ": " ++ file.shown

def message (e : OsError) : Text :=
  match e.arguments with
  | [] => []
  | [v] => v.asText
  | number :: text :: files =>
    if e.isNumbered then
      ofString "[Errno " ++ number.asText ++ ofString "] " ++ text.asText ++ filesShown files
    else (Value.tuple e.arguments).shown

/-- Whether the call could not go on without waiting. -/
def isBlocking (e : OsError) : Bool :=
  match e.errno with
  | .int n => n == 11 || n == 114 || n == 115
  | _ => false

/-- Failures that ask for the same call again once the socket is writable: the call would
have to wait, or it was interrupted. -/
def isRetry (e : OsError) : Bool :=
  e.isBlocking ||
    match e.errno with
    | .int n => n == 4
    | _ => false

/-- The failure of a call. When the call could not go on without waiting, a number in the
place of the file tells how much was written before, and is no part of the message. -/
def ofCall (arguments : List Value) : Except Fault OsError :=
  let error : OsError := ⟨arguments⟩
  match error.isBlocking, arguments with
  | true, number :: text :: file :: _ =>
    match file.integer?, file with
    | some n, _ =>
      if n < -2 ^ 63 || 2 ^ 63 ≤ n then .error (.value .tooLargeForSize)
      else .ok ⟨[number, text]⟩
    | none, .float _ | none, .foreign .complex => .error (.type (.notIndex file.typeName))
    | none, _ => .ok error
  | _, _ => .ok error

def numbered (n : Int) (text : String) : OsError := ⟨[.int n, .text (ofString text)]⟩

end OsError

def TypeFault.message : TypeFault → Text
  | .notOrdered left right =>
    ofString s!"'<=' not supported between instances of '{left}' and '{right}'"
  | .notContainer type => ofString s!"argument of type '{type}' is not iterable"
  | .notIterable type => ofString s!"'{type}' object is not iterable"
  | .notBytesLike type => ofString s!"a bytes-like object is required, not '{type}'"
  | .noLength type => ofString s!"object of type '{type}' has no len()"
  | .notCharacter type => ofString s!"ord() expected string of length 1, but {type} found"
  | .notIndex type => ofString s!"'{type}' object cannot be interpreted as an integer"
  | .notConvertible type target => ofString s!"Cannot convert {type} to an {target}"
  | .notSubscriptable type => ofString s!"'{type}' object is not subscriptable"
  | .notStart type => ofString s!"startswith first arg must be str or a tuple of str, not {type}"
  | .noOperator symbol left right =>
    ofString s!"unsupported operand type(s) for {symbol}: '{left}' and '{right}'"
  | .notNumber type =>
    ofString s!"int() argument must be a string, a bytes-like object or a real number, not '{type}'"
  | .notBytes type => ofString s!"cannot convert '{type}' object to bytes"
  | .notBuffer type => ofString s!"cannot convert '{type}' object to bytearray"
  | .textWithoutEncoding => ofString "string argument without an encoding"
  | .unhashable type => ofString s!"unhashable type: '{type}'"
  | .notTextItem place type =>
    ofString s!"sequence item {place}: expected str instance, {type} found"
  | .unexpectedSetting name =>
    ofString "SocketConfig.__init__() got an unexpected keyword argument '" ++ name ++ ofString "'"
  | .notSortable left right =>
    ofString s!"'<' not supported between instances of '{left}' and '{right}'"
  | .notMapping type =>
    ofString s!"asyncosc.config.SocketConfig() argument after ** must be a mapping, not {type}"
  | .missingFields type names =>
    let quoted := names.map fun name => s!"'{name}'"
    let listed := match quoted.reverse with
      | [] => ""
      | [only] => only
      | [second, first] => first ++ " and " ++ second
      | last :: rest => ", ".intercalate rest.reverse ++ ", and " ++ last
    let plural := if names.length = 1 then "argument" else "arguments"
    ofString s!"{type}.__init__() missing {names.length} required positional {plural}: {listed}"
  | .tooManyFields type least most given =>
    let accepted :=
      if least = most then (if most = 0 then "1 positional argument"
        else s!"{most + 1} positional arguments")
      else s!"from {least + 1} to {most + 1} positional arguments"
    ofString s!"{type}.__init__() takes {accepted} but {given + 1} were given"
  | .notBytesStart type =>
    ofString s!"startswith first arg must be bytes or a tuple of bytes, not {type}"
  | .notStartItem type => ofString s!"tuple for startswith must only contain str, not {type}"
  | .notJoined added type =>
    if type = "bytes" || type = "bytearray" then ofString s!"can't concat {added} to {type}"
    else ofString (s!"can only concatenate {type} (not \"" ++ added ++ s!"\") to {type}")
  | .dateWithDateTime => ofString "can't compare datetime.datetime to datetime.date"
  | .mixedOffsets => ofString "can't compare offset-naive and offset-aware datetimes"

def PackFault.message : PackFault → Text
  | .notInteger => ofString "required argument is not an integer"
  | .notReal => ofString "required argument is not a float"
  | .outsideInt32 => ofString "'i' format requires -2147483648 <= number <= 2147483647"
  | .outsideInt64 => ofString "argument out of range"
  | .intTooLarge => ofString "int too large to convert"

/-- The words for a number that is no size. -/
def notIndexSized : String := "cannot fit 'int' into an index-sized integer"

def OverflowFault.message : OverflowFault → Text
  | .single => ofString "float too large to pack with f format"
  | .intToDouble => ofString "int too large to convert to float"
  | .quotient => ofString "integer division result too large for a float"
  | .infiniteToInt => ofString "cannot convert float infinity to integer"
  | .tooLargeForSize => ofString notIndexSized
  | .bytesTooLong => ofString "byte string is too large"

def FieldFault.message : FieldFault → Text
  | .type fault => fault.message
  | .attribute owner name => ofString s!"'{owner}' object has no attribute '{name}'"
  | .pack fault => fault.message
  | .overflow fault => fault.message

/-- A message shows at most so much of a numeral that is none. -/
def maxShown : Nat := 200

def ValueFault.message : ValueFault → Text
  | .notHostPort address => ofString "Expected 'host:port', got " ++ Quoted.text address
  | .notNumeral shown =>
    ofString "invalid literal for int() with base 10: " ++ shown.take maxShown
  | .numeralTooLong digits =>
    ofString (s!"Exceeds the limit (4300 digits) for integer string conversion: " ++
      s!"value has {digits} digits; use sys.set_int_max_str_digits() to increase the limit")
  | .nanToInt => ofString "cannot convert float NaN to integer"
  | .byteRange => ofString "bytes must be in range(0, 256)"
  | .negativeCount => ofString "negative count"
  | .tooLargeForSize => ofString notIndexSized
  | .datagramSize given => ofString "max_datagram_size must be positive, got " ++ given.asText
  | .unknownSettings path names =>
    ofString "Unknown [socket] settings in " ++ path ++ ofString ": " ++ Text.join Value.comma names
  | .notDatagram kind number =>
    ofString s!"Expected a SOCK_DGRAM socket, got <SocketKind.{kind}: {number}>"
  | .described text => text

def RuntimeFault.message : RuntimeFault → Text
  | .alreadyReceiving => ofString "Another task is already receiving on this endpoint"
  | .alreadyReleased => ofString "Endpoint already released"
  | .releasedTooOften => ofString "Endpoint released more times than acquired"

/-- The place of a run of surrogates, with the character itself when it is only one. -/
def Utf8.SurrogateRun.message (run : Utf8.SurrogateRun) : Text :=
  if run.stop = run.start + 1 then
    ofString "'utf-8' codec can't encode character '\\u" ++ Text.hex 4 run.first.val ++
      ofString s!"' in position {run.start}: surrogates not allowed"
  else
    ofString (s!"'utf-8' codec can't encode characters in position {run.start}-{run.stop - 1}: " ++
      "surrogates not allowed")

def Utf8.Defect.message : Utf8.Defect → String
  | .start => "invalid start byte"
  | .continuation => "invalid continuation byte"
  | .cut => "unexpected end of data"

def Utf8.Malformed.message (m : Utf8.Malformed) : Text :=
  if m.length = 1 then
    ofString "'utf-8' codec can't decode byte 0x" ++ Text.hex 2 m.lead.toNat ++
      ofString s!" in position {m.position}: {m.defect.message}"
  else
    ofString (s!"'utf-8' codec can't decode bytes in position " ++
      s!"{m.position}-{m.position + m.length - 1}: {m.defect.message}")

def EncodeFault.message : EncodeFault → Text
  | .nulInString value => ofString "String contains NUL character: " ++ value.shown
  | .timetagRange value => ofString "Timetag out of range: " ++ value.asText
  | .componentRange kind components =>
    ofString s!"{kind.name} components must be in 0..255, got " ++ (Value.tuple components).shown
  | .charLength value => ofString "Char must be exactly one character, got " ++ value.shown
  | .notArgument value => ofString "Not an OSC argument: " ++ value.shown
  | .notPacket type => ofString s!"Not an OSC packet: {type}"
  | .address value =>
    ofString "OSC address must be a string starting with '/': " ++ value.shown
  | .argument target cause =>
    ofString "Invalid argument in " ++ target ++ ofString ": " ++ cause.message
  | .timetag value cause =>
    ofString "Invalid bundle timetag " ++ value.shown ++ ofString ": " ++ cause.message
  | .described text => text

def DecodeFault.message : DecodeFault → Text
  | .empty => ofString "Empty packet"
  | .unknownStart start =>
    ofString "Packet must start with '/' or '#bundle', got " ++ Quoted.bytes start
  | .truncated need offset available =>
    ofString s!"Truncated packet: need {need} bytes at offset {offset}, have {available}"
  | .unterminated offset => ofString s!"Unterminated string at offset {offset}"
  | .invalidUtf8 cause => ofString "Invalid UTF-8 in string: " ++ cause.message
  | .negativeBlob size => ofString "Negative blob size: " ++ Text.ofInt size
  | .invalidChar code => ofString s!"Invalid character code: {code}"
  | .unknownTag tag => ofString "Unknown type tag: " ++ Quoted.text [tag]
  | .tagStart tags => ofString "Type tag string must start with ',': " ++ Quoted.text tags
  | .unbalancedClose => ofString "Unbalanced ']' in type tags"
  | .unbalancedOpen => ofString "Unbalanced '[' in type tags"
  | .trailing count address =>
    ofString s!"{count} trailing bytes after arguments of " ++ address
  | .elementSize size remaining =>
    ofString "Bundle element size " ++ Text.ofInt size ++
      ofString s!" exceeds remaining {remaining} bytes"
  | .tooDeep => ofString s!"Bundles nested deeper than {maxBundleDepth} levels"
  | .described text => text

namespace TransportFault

/-- The failure underneath, when the operating system reported one. -/
def cause? : TransportFault → Option OsError
  | .send cause | .sendTo _ cause | .connect _ cause | .bind _ cause => some cause
  | .receive cause | .localAddress cause | .peerAddress cause => some cause
  | .described _ cause => cause
  | .senderClosed | .socketClosed | .partlySent .. => none

/-- Whether the fault was raised while handling the failure underneath. -/
def isChained : TransportFault → Bool
  | .described .. => false
  | fault => fault.cause?.isSome

def message : TransportFault → Text
  | .senderClosed => ofString "Sender is closed"
  | .socketClosed => ofString "Socket is closed"
  | .partlySent sent size =>
    ofString "UDP packet not fully sent: " ++ Text.ofInt sent ++ ofString s!" of {size} bytes"
  | .send cause => ofString "Send failed: " ++ cause.message
  | .sendTo address cause =>
    ofString "Send to " ++ address.asText ++ ofString " failed: " ++ cause.message
  | .connect address cause =>
    ofString "Connect to " ++ address.asText ++ ofString " failed: " ++ cause.message
  | .bind address cause =>
    ofString "Bind to " ++ address.asText ++ ofString " failed: " ++ cause.message
  | .receive cause => ofString "Receive failed: " ++ cause.message
  | .localAddress cause => ofString "Cannot read local address: " ++ cause.message
  | .peerAddress cause => ofString "Cannot read peer address: " ++ cause.message
  | .described text _ => text

end TransportFault

/-- The words for a place that a sequence does not have. -/
def indexMessage : String → String
  | "bytes" => "index out of range"
  | "memoryview" => "index out of bounds on dimension 1"
  | "range" => "range object index out of range"
  | type => s!"{type} index out of range"

def Fault.message : Fault → Text
  | .plain _ text => text
  | .field fault => fault.message
  | .value fault => fault.message
  | .index type => ofString (indexMessage type)
  | .noSocket type => ofString s!"{type} has no underlying socket"
  | .unknownKey key => key.shown
  | .surrogates run => run.message
  | .runtime fault => fault.message
  | .encode fault => fault.message
  | .decode fault => fault.message
  | .cut capacity =>
    ofString "Datagram exceeds receive capacity of " ++ capacity.asText ++ ofString " bytes"
  | .transport fault => fault.message
  | .os error => error.message
  | .memory => []

end Osc
