import PipeQuery.Collection.Basic
import PipeQuery.Unicode.Escaped

/-!
# Summaries

One-line descriptions of collections and tables of members for people who look into a running program.
-/

set_option autoImplicit false

namespace PipeQuery

def bracketedTexts (texts : List String) : String :=
  "[" ++ ", ".intercalate texts ++ "]"

def titledFields (title : String) (fields : List (String × String)) : String :=
  title ++ " \x7b " ++ ", ".intercalate (fields.map (fun field => field.1 ++ ": " ++ field.2)) ++ " \x7d"

def Table.namesSummary {μ : Type} (members : Table μ) : String :=
  bracketedTexts (members.keys.map Unicode.escapedText)

def Table.summary {μ : Type} (members : Table μ) : String :=
  titledFields "Members" [("names", members.namesSummary)]

def limitSummary : Option Nat → String
  | some limit => "Some(" ++ toString limit ++ ")"
  | none => "None"

def Limits.summary (limits : Limits) : String :=
  titledFields "ParseOptions"
    [("max_expression_len", limitSummary limits.maxBytes), ("max_steps", limitSummary limits.maxSteps)]

def Collection.summary {α μ : Type} (itemText : α → String) (collection : Collection α μ) : String :=
  titledFields "Collection"
    [("items", bracketedTexts (collection.items.map itemText)),
     ("members", Table.namesSummary collection.members), ("options", collection.limits.summary)]

end PipeQuery
