import EnetTsn.Netconf.TreeWalk
import EnetTsn.Netconf.TreeKeyOrder

namespace EnetTsn.Netconf

def keyLeafs (iskeycb : Keychecker) (contpath : Text) : XmlNode → List (Text × Text)
  | .null => []
  | .element name _ text firstChild nextSibling =>
    if firstChild.isNull ∧ (iskeycb (contpath ++ '/' :: name)).isSome ∧ text ≠ [] then
      (name, text) :: keyLeafs iskeycb contpath nextSibling
    else keyLeafs iskeycb contpath nextSibling

/-- The paths of a node and its next siblings below an entry: one for each leaf that is no key,
and one for each list entry with its only key leaf. -/
def leafPaths (type : TreeinfoType) (iskeycb : Keychecker) :
    Bool → List Segment → XmlNode → List Text
  | _, _, .null => []
  | previous, entry, .element name operation text firstChild nextSibling =>
    (if firstChild.isNull then
      if (iskeycb (schemaPath entry ++ '/' :: name)).isSome then
        if !previous && nextSibling.isNull then
          [(entryInfo type (rendered entry) operation).path]
        else []
      else [(leafInfo type (rendered entry) name text operation).path]
    else
      leafPaths type iskeycb false
        (entry ++ [⟨name, sortKeys iskeycb (schemaPath entry ++ '/' :: name)
          (keyLeafs iskeycb (schemaPath entry ++ '/' :: name) firstChild)⟩]) firstChild) ++
    leafPaths type iskeycb true entry nextSibling

/-- The paths of the subtree of a module: behind each node all keys of its entry in order. -/
def subtreePaths (type : TreeinfoType) (iskeycb : Keychecker) (modname : Text) (tree : XmlNode) :
    List Text :=
  leafPaths type iskeycb false
    [⟨modname, sortKeys iskeycb ('/' :: modname) (keyLeafs iskeycb ('/' :: modname) tree)⟩] tree

/-- A path goes on from the path of an entry with a part in which a key is not found. -/
def Overreach (entryPath name path : Text) : Prop :=
  entryPath <+: path ∧ '/' ∈ path.drop entryPath.length ∧
    nconfXmlutilsFindKey ((path.drop entryPath.length).takeWhile (· ≠ '/')) name = false

instance (entryPath name path : Text) : Decidable (Overreach entryPath name path) :=
  inferInstanceAs (Decidable (_ ∧ _ ∧ _))

/-- A path from an entry on: the nodes below the entry, and what comes behind them. -/
structure Gathered where
  segments : List Segment
  info : ConfigStrings
  deriving DecidableEq, Repr

/-- What the siblings list below their entry, the last one first; the keys stand in the order in
which they come up. -/
def gather (type : TreeinfoType) (iskeycb : Keychecker) :
    Bool → Text → XmlNode → List Gathered
  | _, _, .null => []
  | previous, contpath, .element name operation text firstChild nextSibling =>
    gather type iskeycb true contpath nextSibling ++
      (if firstChild.isNull then
        if (iskeycb (contpath ++ '/' :: name)).isSome then
          if text ≠ [] ∧ (!previous && nextSibling.isNull) then [⟨[], entryInfo type [] operation⟩]
          else []
        else [⟨[], leafInfo type [] name text operation⟩]
      else
        (gather type iskeycb false (contpath ++ '/' :: name) firstChild).map fun path =>
          { path with segments :=
            ⟨name, (keyLeafs iskeycb (contpath ++ '/' :: name) firstChild).reverse⟩ ::
              path.segments })

def listing (entry : List Segment) (gathered : List Gathered) : List ConfigStrings :=
  gathered.map fun path =>
    ⟨rendered (entry ++ path.segments) ++ path.info.path, path.info.value⟩

/-- Among a node and its next siblings, and below: when a key leaf comes up, none of the paths that
are listed for others goes on from the path of its entry without that key. The siblings behind
have come up before, and the path of the entry has their keys. -/
def Clear (type : TreeinfoType) (iskeycb : Keychecker) :
    List Segment → Text → List ConfigStrings → XmlNode → Prop
  | _, _, _, .null => True
  | front, entry, others, .element name _ text firstChild nextSibling =>
    let contpath := schemaPath front ++ '/' :: entry
    let known := front ++ [⟨entry, (keyLeafs iskeycb contpath nextSibling).reverse⟩]
    Clear type iskeycb front entry others nextSibling ∧
      if firstChild.isNull then
        (iskeycb (contpath ++ '/' :: name)).isSome → text ≠ [] →
          ∀ info ∈ others, ¬ Overreach (rendered known) name info.path
      else
        Clear type iskeycb known name
          (others ++ listing known (gather type iskeycb true contpath nextSibling)) firstChild

def Filled (iskeycb : Keychecker) : Bool → Text → XmlNode → Prop
  | _, _, .null => True
  | previous, contpath, .element name _ text firstChild nextSibling =>
    (if firstChild.isNull then
      (iskeycb (contpath ++ '/' :: name)).isSome → (!previous && nextSibling.isNull) → text ≠ []
    else Filled iskeycb false (contpath ++ '/' :: name) firstChild) ∧
    Filled iskeycb true contpath nextSibling

/-- The names are names of XML elements, those of keys have no namespace prefix, and operations
have no `|`. -/
def Named (iskeycb : Keychecker) : Text → XmlNode → Prop
  | _, .null => True
  | contpath, .element name operation _ firstChild nextSibling =>
    name ≠ [] ∧ Separate name ∧ '|' ∉ operation ∧
      ((iskeycb (contpath ++ '/' :: name)).isSome → ':' ∉ name) ∧
      Named iskeycb (contpath ++ '/' :: name) firstChild ∧ Named iskeycb contpath nextSibling

def PlainValues (iskeycb : Keychecker) : Text → XmlNode → Prop
  | _, .null => True
  | contpath, .element name _ text firstChild nextSibling =>
    ((firstChild.isNull ∧ (iskeycb (contpath ++ '/' :: name)).isSome) → Separate text) ∧
      PlainValues iskeycb (contpath ++ '/' :: name) firstChild ∧
      PlainValues iskeycb contpath nextSibling

def DistinctKeys (iskeycb : Keychecker) : Text → XmlNode → Prop
  | _, .null => True
  | contpath, .element name _ _ firstChild nextSibling =>
    (((keyLeafs iskeycb (contpath ++ '/' :: name) firstChild).map fun key =>
      keyIndex iskeycb (contpath ++ '/' :: name) key.1).Nodup ∧
      DistinctKeys iskeycb (contpath ++ '/' :: name) firstChild) ∧
      DistinctKeys iskeycb contpath nextSibling

/-- The subtree of a module, as XML and the data model have it, in a document of its own. -/
structure Subtree (iskeycb : Keychecker) (modname : Text) (tree : XmlNode) : Prop where
  single : ∃ name operation text firstChild, tree = .element name operation text firstChild .null
  separate : Separate modname
  named : Named iskeycb ('/' :: modname) tree
  distinct : DistinctKeys iskeycb ('/' :: modname) tree

section Decide

instance (text : Text) : Decidable (Separate text) :=
  decidable_of_iff ('/' ∉ text ∧ '|' ∉ text) ⟨fun ⟨slash, bar⟩ => ⟨slash, bar⟩,
    fun ⟨slash, bar⟩ => ⟨slash, bar⟩⟩

variable (iskeycb : Keychecker)

def Named.decide : ∀ contpath node, Decidable (Named iskeycb contpath node)
  | _, .null => .isTrue trivial
  | contpath, .element name _ _ firstChild nextSibling =>
    have := Named.decide (contpath ++ '/' :: name) firstChild
    have := Named.decide contpath nextSibling
    inferInstanceAs (Decidable (_ ∧ _ ∧ _ ∧ _ ∧ _ ∧ _))

def PlainValues.decide : ∀ contpath node, Decidable (PlainValues iskeycb contpath node)
  | _, .null => .isTrue trivial
  | contpath, .element name _ _ firstChild nextSibling =>
    have := PlainValues.decide (contpath ++ '/' :: name) firstChild
    have := PlainValues.decide contpath nextSibling
    inferInstanceAs (Decidable (_ ∧ _ ∧ _))

def DistinctKeys.decide : ∀ contpath node, Decidable (DistinctKeys iskeycb contpath node)
  | _, .null => .isTrue trivial
  | contpath, .element name _ _ firstChild nextSibling =>
    have := DistinctKeys.decide (contpath ++ '/' :: name) firstChild
    have := DistinctKeys.decide contpath nextSibling
    inferInstanceAs (Decidable ((_ ∧ _) ∧ _))

instance (contpath : Text) (node : XmlNode) : Decidable (Named iskeycb contpath node) :=
  Named.decide iskeycb contpath node

instance (contpath : Text) (node : XmlNode) : Decidable (PlainValues iskeycb contpath node) :=
  PlainValues.decide iskeycb contpath node

instance (contpath : Text) (node : XmlNode) : Decidable (DistinctKeys iskeycb contpath node) :=
  DistinctKeys.decide iskeycb contpath node

end Decide

end EnetTsn.Netconf
