import Reconcile.Document.Value
import Reconcile.Settings.Basic

/-!
# The schema of settings files

The document of the schema that comes with the program. It allows nothing but the known keys, and
under each of them a value of the right form.
-/

namespace Reconcile.Settings

open Reconcile.Document

namespace SchemaDocument

/-! ## 1. Parts -/

def text : Value := .record [("type", .text "string")]

def name : Value := .record [("type", .text "string"), ("minLength", .int 1)]

def flag : Value := .record [("type", .text "boolean")]

def listOf (item : Value) : Value := .record [("type", .text "array"), ("items", item)]

def names : Value :=
  .record [("type", .text "array"), ("items", name), ("uniqueItems", .bool true)]

def mappingTo (value : Value) : Value :=
  .record [("type", .text "object"), ("additionalProperties", value)]

/-- The precision of a numeric column: a number, its text, or nothing. -/
def precision : Value := .record [("type", .texts ["number", "string", "null"])]

/-- Numeric columns: a list of entries, or a mapping from columns to precisions. -/
def numericColumns : Value := .record [("oneOf", .list [listOf name, mappingTo precision])]

def policy : Value :=
  .record [("type", .text "string"), ("enum", .texts ["ignore", "info", "fail"])]

/-- A limit of rows: -1 or more. -/
def limit : Value := .record [("type", .text "integer"), ("minimum", .int unlimited)]

/-! ## 2. The whole -/

/-- The keys of a settings file with the schemas of their values. -/
def properties : List (String × Value) := [
  ("key_columns", names),
  ("numeric_columns", numericColumns),
  ("column_mapping", mappingTo name),
  ("ignore_columns", listOf text),
  ("info_columns", listOf text),
  ("case_sensitive", flag),
  ("check_duplicates", flag),
  ("extra_policy", policy),
  ("group_key_fields", mappingTo (listOf name)),
  ("service_fields", listOf text),
  ("max_passed_rows", limit),
  ("max_failed_rows", limit),
  ("max_not_found_rows", limit),
  ("max_extra_rows", limit)]

end SchemaDocument

/-- The document of the schema of settings files. -/
def schemaDocument : Value := .record [
  ("$schema", .text "http://json-schema.org/draft-07/schema#"),
  ("title", .text "Comparison Settings"),
  ("description", .text "Settings of a tabular or structural comparison"),
  ("type", .text "object"),
  ("additionalProperties", .bool false),
  ("properties", .record SchemaDocument.properties)]

end Reconcile.Settings
