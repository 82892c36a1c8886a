import Wireframe.Document.Conversion
import Wireframe.Document.Validation

/-!
# Taking documents in

The validator comes first. Only what it rejects may be converted, and only as the policy
allows: conversion can be switched off, and a value that declares another version of the
language is left alone unless the policy says otherwise. Whatever the outcome, an error carries
every issue of the validator.
-/

namespace Wireframe

/-- When a rejected value may be converted. -/
structure IngestPolicy where
  /-- Convert although the value declares another version. -/
  anyVersion : Bool
  /-- Convert at all. -/
  heuristics : Bool
  validation : ValidationOptions

/-- How a document came about. -/
inductive Origin where
  | validated
  | converted (strategy : String)
deriving DecidableEq

/-- A document taken in. -/
structure Ingested where
  document : Document
  origin : Origin

/-- Why a value was not taken in. -/
inductive IngestError where
  /-- It is invalid and may not be converted. -/
  | invalid (issues : List Issue)
  /-- It is invalid and no strategy matches. -/
  | conversionMiss (issues : List Issue)

namespace IngestError

/-- The issues of the validator. -/
def issues : IngestError → List Issue
  | invalid issues => issues
  | conversionMiss issues => issues

/-- The wording of an error. -/
def message : IngestError → String
  | invalid issues => "Invalid document: " ++ Issue.summary issues
  | conversionMiss issues =>
    "Invalid document and no conversion matched: " ++ Issue.summary issues

end IngestError

/-- A document from a raw value, validated or else converted. -/
def ingest (policy : IngestPolicy) (strategies : List Strategy) (raw : Json) :
    Except IngestError Ingested :=
  match Document.validate policy.validation raw with
  | .ok document => .ok ⟨document, .validated⟩
  | .error issues =>
    if !policy.heuristics || (Issue.anyVersionMismatch issues && !policy.anyVersion) then
      .error (.invalid issues)
    else
      match Strategy.convertFirst strategies raw with
      | some (name, document) => .ok ⟨document, .converted name⟩
      | none => .error (.conversionMiss issues)

end Wireframe
