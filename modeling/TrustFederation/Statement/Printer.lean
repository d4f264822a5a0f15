import TrustFederation.Statement.Basic
/-!
# Statements as JSON

The claims of a statement as a JSON object, without those that are absent.
-/
namespace TrustFederation

open Json (optionalMember)

/-- A reference to a trust mark as a JSON object. -/
def TrustMark.toJson (trustMark : TrustMark) : Json :=
  .ofMembers [("trust_mark_type", .text trustMark.type), ("trust_mark", .text trustMark.mark)]

/-- Naming constraints as a JSON object. -/
def NamingConstraints.toJson (naming : NamingConstraints) : Json :=
  .ofMembers (optionalMember "permitted" .ofTexts naming.permitted ++
    optionalMember "excluded" .ofTexts naming.excluded)

/-- Constraints as a JSON object. -/
def Constraints.toJson (constraints : Constraints) : Json :=
  .ofMembers (optionalMember "max_path_length" .ofNat constraints.maxPathLength ++
    optionalMember "naming_constraints" NamingConstraints.toJson constraints.naming ++
    optionalMember "allowed_leaf_entity_types" .ofTexts constraints.leafEntityTypes)

/-- Endpoints as a JSON object. -/
def Endpoints.toJson (endpoints : Endpoints) : Json :=
  .ofMembers (optionalMember "federation_fetch_endpoint" .text endpoints.fetch ++
    optionalMember "federation_list_endpoint" .text endpoints.list ++
    optionalMember "federation_resolve_endpoint" .text endpoints.resolve ++
    optionalMember "federation_trust_mark_endpoint" .text endpoints.trustMark ++
    optionalMember "federation_trust_mark_list_endpoint" .text endpoints.trustMarkList)

/-- The claims of a statement as a JSON object. -/
def Statement.toJson (statement : Statement) : Json :=
  .ofMembers ([("iss", .text statement.issuer), ("sub", .text statement.subject),
      ("iat", .ofInt statement.issuedAt), ("exp", .ofInt statement.expiresAt)] ++
    optionalMember "jwks" Jose.KeySet.toJson statement.keys ++
    optionalMember "metadata" .object statement.metadata ++
    optionalMember "metadata_policy" id statement.metadataPolicy ++
    optionalMember "authority_hints" .ofTexts statement.authorityHints ++
    optionalMember "trust_marks" (fun marks => .array (marks.map TrustMark.toJson))
      statement.trustMarks ++
    optionalMember "constraints" Constraints.toJson statement.constraints ++
    optionalMember "crit" .ofTexts statement.critical ++
    optionalMember "metadata_policy_crit" .ofTexts statement.criticalOperators ++
    optionalMember "source_endpoint" .text statement.sourceEndpoint ++
    optionalMember "subject_entity_configuration_location" .text
      statement.configurationLocation)

end TrustFederation
