import Mathlib.Data.List.Sort
import EnetTsn.Library.CharSearch

/-!
The subtrees of edit-config requests and of filters. A subtree is flattened to the paths of its
leafs. The keys of a list entry are put into the paths when the key leafs come up, which is after
the siblings that follow them.
-/

namespace EnetTsn.Netconf

open EnetTsn.Library (findMark rfindMark substr replaceAt getlines)

/-- `std::string`. -/
abbrev Text := List Char

/-- `pugi::xml_node` of a subtree: no node, or an element with the operation that
`nconf_xmlutils_get_edit_operation` finds (empty where it finds none), its text, its first child
and its next sibling. -/
inductive XmlNode where
  | null
  | element (name operation text : Text) (firstChild nextSibling : XmlNode)
  deriving DecidableEq, Repr

namespace XmlNode

def isNull : XmlNode → Bool
  | null => true
  | element .. => false

def count : XmlNode → Nat
  | null => 0
  | element _ _ _ firstChild nextSibling => firstChild.count + nextSibling.count + 1

end XmlNode

/-- An entry of `NodeStack`, with whether the node has a previous sibling. -/
structure StackEntry where
  node : XmlNode
  previousSibling : Bool
  path : Text
  deriving DecidableEq, Repr

/-- `struct config_strings`; an entry of a `FilterVector` has no value. -/
structure ConfigStrings where
  path : Text
  value : Text
  deriving DecidableEq, Repr

/-- `nconf_treeinfo_type_t`. -/
inductive TreeinfoType where
  | filter
  | config
  deriving DecidableEq, Repr

/-- `nconf_treeinfo_t`. -/
structure Treeinfo where
  nodepaths : List Text
  nodevalues : List (Option Text)
  count : UInt8
  deriving DecidableEq, Repr

/-- `nconf_keychecker_t`: the index of the key that a path without keys leads to. -/
abbrev Keychecker := Text → Option UInt8

/-- One after another, the parts between a `|` and the next `/` are cut out. -/
def removeKeyinfoLoop : Nat → Text → Text
  | 0, path => path
  | fuel + 1, path => match findMark path '|' 0 with
    | none => path
    | some keyinfoPos => match findMark path '/' (keyinfoPos + 1) with
      | none => removeKeyinfoLoop fuel (path.take keyinfoPos)
      | some nextnodePos =>
        removeKeyinfoLoop fuel (path.take keyinfoPos ++ path.drop nextnodePos)

/-- `nconf_xmlutils_remove_keyinfo`; every turn takes out a character at least. -/
def nconfXmlutilsRemoveKeyinfo (nodepath : Text) : Text :=
  removeKeyinfoLoop nodepath.length nodepath

def nconfXmlutilsFindKey (keyInfo keyHdr : Text) : Bool :=
  (getlines '|' keyInfo).any fun keyPair => keyPair.takeWhile (· ≠ ':') = keyHdr

/-- The text of a key and its value, with the `|` behind it. -/
def keyPair (name value : Text) : Text := name ++ ':' :: (value ++ ['|'])

/-- What is put behind a text for a key. That `back()` of an empty string is no `|` is what the
octet before a string comes to, and not the contract of the class. -/
def keyInfoNew (before name value : Text) : Text :=
  if before.getLast? ≠ some '|' then '|' :: keyPair name value else keyPair name value

/-- `key_info_start` of `nconf_xmlutils_update_keyinfo`. -/
def keyInfoStart (currentPath path : Text) : Option Nat :=
  if currentPath.getLast? ≠ some '|' then some currentPath.length
  else (rfindMark path '/' (currentPath.length - 1)).bind (findMark path '|')

/-- The loop body of `nconf_xmlutils_update_keyinfo`. -/
def updatePath (currentPath name value path : Text) : Text :=
  if currentPath <+: path then
    match keyInfoStart currentPath path with
    | none => path
    | some start => match findMark path '/' start with
      | none => path
      | some stop =>
        let keyInfo := substr path start (stop - start)
        if nconfXmlutilsFindKey keyInfo name then path
        else replaceAt path stop 0 (keyInfoNew keyInfo name value)
  else path

/-- `nconf_xmlutils_update_keyinfo`: the current path and the listed paths. -/
def nconfXmlutilsUpdateKeyinfo (currentPath name value : Text) (paths : List ConfigStrings) :
    Text × List ConfigStrings :=
  (currentPath ++ keyInfoNew currentPath name value,
    paths.map fun info => { info with path := updatePath currentPath name value info.path })

/-- `nconf_xmlutils_add_tree_info`, for filters and for configurations. -/
def nconfXmlutilsAddTreeInfo : TreeinfoType → Text → Text → Text → ConfigStrings
  | .filter, npath, _, _ => ⟨npath ++ ['/'], []⟩
  | .config, npath, nval, operation =>
    ⟨if operation.length > 0 then npath ++ '&' :: operation else npath, nval⟩

def entryInfo : TreeinfoType → Text → Text → ConfigStrings
  | .filter, path, _ => nconfXmlutilsAddTreeInfo .filter path [] []
  | .config, path, operation =>
    nconfXmlutilsAddTreeInfo .config (path ++ "/dummy".toList) ['0'] operation

/-- `nconf_xmlutils_process_normal_leafs`, what it adds. -/
def leafInfo : TreeinfoType → Text → Text → Text → Text → ConfigStrings
  | .filter, path, name, _, _ => nconfXmlutilsAddTreeInfo .filter (path ++ '/' :: name) [] []
  | .config, path, name, text, operation =>
    nconfXmlutilsAddTreeInfo .config (path ++ '/' :: name) text operation

def nconfXmlutilsUpdateNodeStack (nodeStack : List StackEntry) (previousPath updatedPath : Text) :
    List StackEntry :=
  nodeStack.map fun entry =>
    if entry.path = previousPath then { entry with path := updatedPath } else entry

/-- `nconf_xmlutils_process_key_leafs`, with whether the leaf has no siblings. -/
def nconfXmlutilsProcessKeyLeafs (type : TreeinfoType) (alone : Bool)
    (path name operation text : Text) (nodeStack : List StackEntry)
    (treeinfo : List ConfigStrings) : List StackEntry × List ConfigStrings :=
  if text.length > 0 then
    let updated := nconfXmlutilsUpdateKeyinfo path name text treeinfo
    if alone then (nodeStack, updated.2 ++ [entryInfo type updated.1 operation])
    else (nconfXmlutilsUpdateNodeStack nodeStack path updated.1, updated.2)
  else (nodeStack, treeinfo)

def pushChildren (path : Text) : Bool → XmlNode → List StackEntry → List StackEntry
  | _, .null, nodeStack => nodeStack
  | previous, .element name operation text firstChild nextSibling, nodeStack =>
    pushChildren path true nextSibling
      (⟨.element name operation text firstChild nextSibling, previous, path⟩ :: nodeStack)

/-- `iskeycb` for a leaf at a path. -/
def isKeyLeaf (iskeycb : Keychecker) (path name : Text) : Bool :=
  (iskeycb (nconfXmlutilsRemoveKeyinfo path ++ '/' :: name)).isSome

/-- One turn of `nconf_xmlutils_flatten_xmltree`. -/
def flattenTurn (type : TreeinfoType) (iskeycb : Keychecker) (top : StackEntry)
    (nodeStack : List StackEntry) (treeinfo : List ConfigStrings) :
    List StackEntry × List ConfigStrings :=
  match top.node with
  | .null => (nodeStack, treeinfo)
  | .element name operation text firstChild nextSibling =>
    if firstChild.isNull then
      if isKeyLeaf iskeycb top.path name then
        nconfXmlutilsProcessKeyLeafs type (!top.previousSibling && nextSibling.isNull) top.path
          name operation text nodeStack treeinfo
      else (nodeStack, treeinfo ++ [leafInfo type top.path name text operation])
    else (pushChildren (top.path ++ '/' :: name) false firstChild nodeStack, treeinfo)

def flattenLoop (type : TreeinfoType) (iskeycb : Keychecker) :
    Nat → List StackEntry → List ConfigStrings → Option (List ConfigStrings)
  | _, [], treeinfo => some treeinfo
  | 0, _ :: _, _ => none
  | fuel + 1, top :: nodeStack, treeinfo =>
    let turn := flattenTurn type iskeycb top nodeStack treeinfo
    flattenLoop type iskeycb fuel turn.1 turn.2

/-- `nconf_xmlutils_flatten_xmltree`. Each turn takes an element from the stack, which does not
come back. -/
def nconfXmlutilsFlattenXmltree (type : TreeinfoType) (xmltree : XmlNode) (modname : Text)
    (iskeycb : Keychecker) : Option (List ConfigStrings) :=
  flattenLoop type iskeycb (xmltree.count + 1) [⟨xmltree, false, '/' :: modname⟩] []

/-- The index that a key is sorted by. An index that `iskeycb` does not set is taken for 0. -/
def keyIndex (iskeycb : Keychecker) (contpath key : Text) : UInt8 :=
  (iskeycb (contpath ++ '/' :: key)).getD 0

/-- The keys between `|`. -/
def joinKeys (keylist : List Text) : Text :=
  keylist.foldl (fun keyInfo keyPair =>
    if keyInfo.length > 0 then keyInfo ++ (keyPair ++ ['|']) else '|' :: (keyPair ++ ['|'])) []

/-- `nconf_xmlutils_sort_key_info`: the sorted keys, if there is more than one. -/
def nconfXmlutilsSortKeyInfo (iskeycb : Keychecker) (contpath keyInfo : Text) : Option Text :=
  let keylist := (getlines '|' keyInfo).filter (· ≠ [])
  if keylist.length > 1 then
    some (joinKeys (keylist.insertionSort fun ls rs =>
      keyIndex iskeycb contpath (ls.takeWhile (· ≠ ':')) ≤
        keyIndex iskeycb contpath (rs.takeWhile (· ≠ ':'))))
  else none

def sortPathLoop (iskeycb : Keychecker) : Nat → Nat → Text → Text
  | 0, _, path => path
  | fuel + 1, pos, path => match findMark path '|' pos with
    | none => path
    | some start => match findMark path '/' start with
      | none => path
      | some stop =>
        match nconfXmlutilsSortKeyInfo iskeycb (nconfXmlutilsRemoveKeyinfo (path.take start))
            (substr path start (stop - start)) with
        | none => sortPathLoop iskeycb fuel stop path
        | some keyInfo =>
          sortPathLoop iskeycb fuel stop (replaceAt path start (stop - start) keyInfo)

/-- `nconf_xmlutils_sort_path_key_info`; every turn goes on by a character at least. -/
def nconfXmlutilsSortPathKeyInfo (iskeycb : Keychecker) (path : Text) : Text :=
  sortPathLoop iskeycb (path.length + 1) 0 path

/-- `nconf_xmlustils_cfg_path_comparator`; for filters, whose values are equal, `<` of the paths. -/
def nconfXmlustilsCfgPathComparator (lhs rhs : ConfigStrings) : Bool :=
  if lhs.path ≠ rhs.path then lhs.path < rhs.path else lhs.value < rhs.value

/-- `nconf_xmlutils_sort_filters` and `nconf_xmlutils_sort_configs`. -/
def nconfXmlutilsSortConfigs (iskeycb : Keychecker) (cfginfos : List ConfigStrings) :
    List ConfigStrings :=
  (cfginfos.map fun info =>
    { info with path := nconfXmlutilsSortPathKeyInfo iskeycb info.path }).insertionSort
    fun lhs rhs => nconfXmlustilsCfgPathComparator rhs lhs = false

/-- `nconf_xmlutils_get_filter_treeinfo` and `nconf_xmlutils_get_config_treeinfo`; filters have no
values. The number of paths is kept in eight bits. -/
def getTreeinfo : TreeinfoType → List ConfigStrings → Treeinfo
  | .filter, paths => ⟨paths.map (·.path), [], UInt8.ofNat paths.length⟩
  | .config, cfginfo =>
    ⟨cfginfo.map (·.path),
      cfginfo.map fun info => if info.value.length > 0 then some info.value else none,
      UInt8.ofNat cfginfo.length⟩

/-- `nconf_xmlutils_generate_tree_info` for a subtree of a module. -/
def nconfXmlutilsGenerateTreeInfo (type : TreeinfoType) (nodeptr : XmlNode) (modname : Text)
    (iskeycb : Keychecker) : Option Treeinfo :=
  (nconfXmlutilsFlattenXmltree type nodeptr modname iskeycb).map fun result =>
    getTreeinfo type (nconfXmlutilsSortConfigs iskeycb result)

/-- The paths that the users of a `nconf_treeinfo_t` go through. -/
def Treeinfo.listed (tree : Treeinfo) : List Text := tree.nodepaths.take tree.count.toNat

end EnetTsn.Netconf
