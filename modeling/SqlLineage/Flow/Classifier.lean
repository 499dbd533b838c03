/-
Module: SqlLineage.Flow.Classifier
Purpose: The role of a relation by an ordered list of rules over its profile. The text of a script
  alone does not say whether a table holds facts or dimensions; the first rule with an answer decides,
  and a relation that no rule claims is a plain source.
Main exports: ClassificationOptions, RoleRule, Classifier, Classifier.ofOptions, Classifier.classify
-/
import SqlLineage.Flow.Profile
import SqlLineage.Flow.Role
import SqlLineage.Text.Visible

namespace SqlLineage.Flow

/-- What the built-in rules can be told. -/
structure ClassificationOptions where
  /-- The joins that a table must drive before it counts as a fact table. -/
  factMinJoins : Nat := 2
  /-- The keyed joins that a table must be on the right side of to count as a dimension. -/
  dimensionMinJoins : Nat := 1
  tempPrefixes : List String := ["tmp_", "temp_", "#"]
  tempSuffixes : List String := ["_tmp", "_temp"]
  factPrefixes : List String := ["fact_", "fct_", "dwd_", "dws_"]
  factSuffixes : List String := ["_fact"]
  dimensionPrefixes : List String := ["dim_"]
  dimensionSuffixes : List String := ["_dim"]
deriving Repr, Inhabited, DecidableEq

/-- One rule: a role for the relations it applies to, and none for those it leaves to later rules. -/
structure RoleRule where
  name : String
  role? : TableProfile → Option NodeRole

namespace RoleRule

/-- The rule that gives a role to every profile of a kind. -/
def ofTest (name : String) (role : NodeRole) (test : TableProfile → Bool) : RoleRule :=
  { name, role? := fun profile => if test profile then some role else none }

def startsWith (start text : String) : Bool :=
  (Text.stripStart? start.toList text.toList).isSome

def endsWith (ending text : String) : Bool := Flow.endsWith ending.toList text.toList

/-- The rule that goes by how the name without schema begins and ends, in any letter case. -/
def naming (name : String) (role : NodeRole) (starts endings : List String) : RoleRule :=
  ofTest name role fun profile =>
    starts.any (fun start => startsWith (Text.lowercase start) profile.base) ||
      endings.any (fun ending => endsWith (Text.lowercase ending) profile.base)

/-- The rule that goes by the joins of a relation: a fact table drives joins with several relations,
more of them than it is looked up by; a dimension is looked up by its key at least as often as it
drives a join. A minimum of zero counts as one. -/
def fanOut (factMin dimensionMin : Nat) : RoleRule :=
  { name := "join-fan-out"
    role? := fun profile =>
      let factMin := max factMin 1
      let dimensionMin := max dimensionMin 1
      if profile.primaryJoins ≥ factMin && profile.partners.length ≥ factMin &&
          profile.primaryJoins > profile.keyedJoins then
        some .factTable
      else if profile.keyedJoins ≥ dimensionMin && profile.keyedJoins ≥ profile.primaryJoins then
        some .dimensionTable
      else none }

end RoleRule

/-- An ordered list of rules. -/
structure Classifier where
  rules : List RoleRule

namespace Classifier

/-- The built-in rules. What a relation is comes before how it is named, and both come before how it is
joined. -/
def ofOptions (options : ClassificationOptions) : Classifier :=
  { rules := [
      .ofTest "cte" .cte (·.isCte),
      .ofTest "derived-table" .tempTable (·.isDerived),
      .naming "temp-naming" .tempTable options.tempPrefixes options.tempSuffixes,
      .ofTest "written-relation" .tempTable (·.isWritten),
      .naming "dimension-naming" .dimensionTable options.dimensionPrefixes
        options.dimensionSuffixes,
      .naming "fact-naming" .factTable options.factPrefixes options.factSuffixes,
      .fanOut options.factMinJoins options.dimensionMinJoins] }

instance : Inhabited Classifier := ⟨.ofOptions {}⟩

/-- Adds a rule after all others. -/
def pushRule (rule : RoleRule) (classifier : Classifier) : Classifier :=
  { rules := classifier.rules ++ [rule] }

/-- Adds a rule before all others. -/
def prependRule (rule : RoleRule) (classifier : Classifier) : Classifier :=
  { rules := rule :: classifier.rules }

def ruleNames (classifier : Classifier) : List String := classifier.rules.map RoleRule.name

/-- The role that the first rule with an answer gives. -/
def classify (classifier : Classifier) (profile : TableProfile) : NodeRole :=
  (classifier.rules.findSome? (·.role? profile)).getD .sourceTable

/-- The rule names in one line. -/
def describe (classifier : Classifier) : String :=
  "Classifier \x7b rules: [" ++ Text.joinWith ", " (classifier.ruleNames.map Text.describe) ++ "] \x7d"

@[simp] theorem classify_cte (options : ClassificationOptions) {profile : TableProfile}
    (isCte : profile.isCte = true) : (ofOptions options).classify profile = .cte := by
  simp [classify, ofOptions, RoleRule.ofTest, isCte]

end Classifier

end SqlLineage.Flow
