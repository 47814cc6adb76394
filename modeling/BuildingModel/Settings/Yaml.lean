import BuildingModel.Settings.Reader
import BuildingModel.Yaml.Reader

/-!
# Settings in YAML

Any scalar is read as a text, and only an unquoted word is a truth value. What is left empty holds
no settings or no texts. A policy is named by a scalar, or by the tag of a node that is null.
-/
namespace BuildingModel.Settings

open BuildingModel.Yaml

def nodeText? : Node → Option String
  | .scalar _ _ text => some text
  | _ => none

def isUnwritten : Node → Bool
  | .scalar _ .plain "" => true
  | _ => false

def nodeTexts? : Node → Option (List String)
  | .sequence _ ns => ns.mapM nodeText?
  | n => if isUnwritten n then some [] else none

def truthOf? (word : String) : Option Bool :=
  if ["true", "True", "TRUE"].contains word then some true
  else if ["false", "False", "FALSE"].contains word then some false
  else none

/-- The truth value of a scalar that is plain, or literal with the tag of truth values. -/
def nodeTruth? : Node → Option Bool
  | .scalar _ .plain word => truthOf? word
  | .scalar (some tag) .literal word => if tag = coreTag "bool" then truthOf? word else none
  | _ => none

/-- Whether a scalar stands for nothing. -/
def isNull : Node → Bool
  | .scalar _ .plain word => ["", "~", "null", "Null", "NULL"].contains word
  | _ => false

/-- The characters of a local tag, which starts with an exclamation mark. -/
def localTag? (n : Node) : Option (List Char) :=
  match n.tag?.map String.toList with
  | some ['!'] => some ['!']
  | some ('!' :: cs) => some cs
  | _ => none

def nodePolicy? (n : Node) : Option HierarchyPolicy :=
  match localTag? n with
  | some cs => if isNull n then HierarchyPolicy.ofName? (String.ofList cs) else none
  | none => (nodeText? n).bind HierarchyPolicy.ofName?

def yamlReader : ValueReader Node where
  text? := nodeText?
  texts? := nodeTexts?
  boolean? := nodeTruth?
  policy? := nodePolicy?

/-- A member of a mapping whose key is a scalar. -/
def namedNode? (member : Node × Node) : Option (String × Node) :=
  (nodeText? member.1).map (·, member.2)

def ofNode? : Node → Option Settings
  | .mapping _ members => (members.mapM namedNode?).bind (ofMembers? yamlReader)
  | n => if isUnwritten n then some standard else none

/-- Settings from a YAML text; one without a document has the standard settings. -/
def ofYaml? (text : String) : Option Settings :=
  (Yaml.parse? text).bind fun n => (n.map ofNode?).getD (some standard)

end BuildingModel.Settings
