import TrustFederation.Jose.Key
/-!
# Headers of tokens

A header names the algorithm of the signature and, as a rule, the key. The other fields are
read, so that a malformed one is a fault, but nothing depends on them.
-/
namespace TrustFederation.Jose

open Json (Complaint Decoder Record RecordField)

/-- The header of a token. -/
structure Header where
  type : Option String
  algorithm : Algorithm
  contentType : Option String
  keySetUrl : Option String
  key : Option Key
  keyId : Option String
  certificateUrl : Option String
  certificates : Option (List String)
  thumbprint : Option String
  thumbprint256 : Option String
deriving DecidableEq

/-- A header with an algorithm only. -/
def Header.blank : Header :=
  ⟨none, .hs256, none, none, none, none, none, none, none, none⟩

/-- Reads the algorithm of a signature: its name, or an object with the name as its only
member and null as its value. Of any other value only the start is looked at. -/
def Algorithm.decode : Decoder Algorithm
  | _, .string name => do choose (← Json.readable name)
  | _, .broken .other _ => .error (.syntactic .noValue)
  | _, .broken _ fault => .error (.syntactic fault.reading)
  | depth, .object members stop => do
    let _ ← Json.enter depth
    match members, stop with
    | [], none => .error (.syntactic .nameNotText)
    | [], some found => .error (.syntactic found.objectBreak.reading)
    | (name, value) :: rest, stop =>
      let chosen ← choose (← Json.readable name)
      match value with
      | .null =>
        match rest, stop with
        | [], none => .ok chosen
        | [], some .atEnd => .error (.syntactic .endInObject)
        | _, _ => .error (.syntactic .noValue)
      | other => .error (other.mismatch "unit")
  | _, _ => .error (.syntactic .noValue)
where
  /-- The algorithm of a name that was read. -/
  choose (name : String) : Except Complaint Algorithm :=
    match Algorithm.ofName? name with
    | some algorithm => .ok algorithm
    | none => .error (.unknownVariant name (Algorithm.all.map (·.name)))

/-- A field of the header that may be left out of an object. -/
def headerField {β : Type} (name : String) (decode : Decoder β)
    (set : Header → Option β → Header) : RecordField Header :=
  .ofSetter name .named (Decoder.optional decode) set

/-- Headers as records. -/
def Header.record : Record Header where
  title := "Header"
  blank := Header.blank
  fields :=
    [headerField "typ" Decoder.text fun header type => { header with type },
     .ofSetter "alg" .required Algorithm.decode fun header algorithm => { header with algorithm },
     headerField "cty" Decoder.text fun header contentType => { header with contentType },
     headerField "jku" Decoder.text fun header keySetUrl => { header with keySetUrl },
     headerField "jwk" Key.decode fun header key => { header with key },
     headerField "kid" Decoder.text fun header keyId => { header with keyId },
     headerField "x5u" Decoder.text fun header certificateUrl => { header with certificateUrl },
     headerField "x5c" Decoder.texts
       fun header certificates => { header with certificates },
     headerField "x5t" Decoder.text fun header thumbprint => { header with thumbprint },
     headerField "x5t#S256" Decoder.text
       fun header thumbprint256 => { header with thumbprint256 }]

/-- The header that bytes hold. -/
def Header.parse (bytes : List UInt8) : Except Complaint Header :=
  Json.decodeText Header.record.decode bytes

end TrustFederation.Jose
