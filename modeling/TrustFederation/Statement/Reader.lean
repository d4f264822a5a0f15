import TrustFederation.Statement.Basic
import TrustFederation.Text.Blank
/-!
# Reading statements

A statement is read from the payload of a token without looking at the signature. Fields
that are not known are skipped. The metadata of a federation entity is read a second time
for the endpoints in it, where anything malformed counts as absent.
-/
namespace TrustFederation

open Json (Decoder Record RecordField)
open Jose (KeySet)

/-- References to trust marks as records; the type has an older name. -/
def TrustMark.record : Record TrustMark where
  title := "TrustMarkRef"
  blank := ⟨"", ""⟩
  fields :=
    [{ RecordField.ofSetter "trust_mark_type" .required Decoder.text
        (fun (mark : TrustMark) type => { mark with type }) with aliases := ["id"] },
     .ofSetter "trust_mark" .required Decoder.text fun trustMark mark => { trustMark with mark }]

/-- Naming constraints as records. -/
def NamingConstraints.record : Record NamingConstraints where
  title := "NamingConstraints"
  blank := ⟨none, none⟩
  fields :=
    [.ofOption "permitted" Decoder.texts fun naming permitted => { naming with permitted },
     .ofOption "excluded" Decoder.texts fun naming excluded => { naming with excluded }]

/-- Constraints as records. -/
def Constraints.record : Record Constraints where
  title := "TrustChainConstraints"
  blank := ⟨none, none, none⟩
  fields :=
    [.ofOption "max_path_length" Decoder.size
       fun constraints maxPathLength => { constraints with maxPathLength },
     .ofOption "naming_constraints" NamingConstraints.record.decode
       fun constraints naming => { constraints with naming },
     .ofOption "allowed_leaf_entity_types" Decoder.texts
       fun constraints leafEntityTypes => { constraints with leafEntityTypes }]

/-- Endpoints as records. -/
def Endpoints.record : Record Endpoints where
  title := "FederationEntityMetadata"
  blank := Endpoints.none
  fields :=
    [.ofOption "federation_fetch_endpoint" Decoder.text
       fun endpoints fetch => { endpoints with fetch },
     .ofOption "federation_list_endpoint" Decoder.text
       fun endpoints list => { endpoints with list },
     .ofOption "federation_resolve_endpoint" Decoder.text
       fun endpoints resolve => { endpoints with resolve },
     .ofOption "federation_trust_mark_endpoint" Decoder.text
       fun endpoints trustMark => { endpoints with trustMark },
     .ofOption "federation_trust_mark_list_endpoint" Decoder.text
       fun endpoints trustMarkList => { endpoints with trustMarkList }]

namespace Statement

/-- A statement without any claim. -/
def blank : Statement :=
  ⟨"", "", 0, 0, none, none, none, none, none, none, none, none, none, none, ""⟩

/-- Statements as records. -/
def record : Record Statement where
  title := "EntityStatement"
  blank := blank
  fields :=
    [.ofSetter "iss" .required Decoder.text fun statement issuer => { statement with issuer },
     .ofSetter "sub" .required Decoder.text fun statement subject => { statement with subject },
     .ofSetter "iat" .required Decoder.signed64
       fun statement issuedAt => { statement with issuedAt },
     .ofSetter "exp" .required Decoder.signed64
       fun statement expiresAt => { statement with expiresAt },
     .ofOption "jwks" KeySet.decode fun statement keys => { statement with keys },
     .ofOption "metadata" Decoder.members
       fun statement metadata => { statement with metadata },
     .ofOption "metadata_policy" Decoder.value
       fun statement metadataPolicy => { statement with metadataPolicy },
     .ofOption "authority_hints" Decoder.texts
       fun statement authorityHints => { statement with authorityHints },
     .ofOption "trust_marks" (Decoder.list TrustMark.record.decode)
       fun statement trustMarks => { statement with trustMarks },
     .ofOption "constraints" Constraints.record.decode
       fun statement constraints => { statement with constraints },
     .ofOption "crit" Decoder.texts fun statement critical => { statement with critical },
     .ofOption "metadata_policy_crit" Decoder.texts
       fun statement criticalOperators => { statement with criticalOperators },
     .ofOption "source_endpoint" Decoder.text
       fun statement sourceEndpoint => { statement with sourceEndpoint },
     .ofOption "subject_entity_configuration_location" Decoder.text
       fun statement configurationLocation => { statement with configurationLocation }]

/-- The statement in the payload of a token that has no blanks around it. -/
def ofTrimmed (token : String) : Except Failure Statement := do
  let payload ← (Jose.Token.payload token).mapError fun fault => .invalidStatement fault.message
  let statement ← (Json.decodeText record.decode payload).mapError
    fun complaint => .invalidStatement complaint.message
  if statement.issuer.isEmpty || statement.subject.isEmpty then
    .error (.invalidStatement "Statement is missing iss or sub")
  else .ok { statement with token }

/-- The statement in the payload of a token. The signature is not looked at. -/
def ofToken (token : String) : Except Failure Statement := ofTrimmed (Text.trim token)

/-- The endpoints in the metadata of a federation entity, if there is such metadata and it
is well formed. -/
def endpoints? (statement : Statement) : Option Endpoints := do
  let metadata ← statement.metadata
  let value ← metadata.lookup federationEntity
  (Json.decodeValue Endpoints.record.decode value).toOption

/-- The statement is the configuration of an authority that makes statements about others. -/
def isIntermediateAuthority (statement : Statement) : Bool :=
  statement.isSelfStatement && (statement.endpoints?.any (·.fetch.isSome))

end Statement

end TrustFederation
