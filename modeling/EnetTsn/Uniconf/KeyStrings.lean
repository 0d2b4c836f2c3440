import EnetTsn.Library.TextSearch
import EnetTsn.Uniconf.RuntimeItems

namespace EnetTsn.Uniconf

open EnetTsn.Library

structure PathNode where
  name : List UInt8
  keys : List (List UInt8 × List UInt8)
  deriving DecidableEq, Repr

/-- A name with none of `/`, `|` and `:`, that ends where the string does. -/
structure PlainName (name : List UInt8) : Prop where
  filled : name ≠ []
  slash : (47 : UInt8) ∉ name
  bar : (124 : UInt8) ∉ name
  colon : (58 : UInt8) ∉ name
  zero : (0 : UInt8) ∉ name

/-- What the printer looks up: the name for the last of some numbers, which is the number itself
where there is none, how many keys a node has, the number and the type of a key, and the string of
a value with the hints for it. -/
structure KeyTables where
  component : List UInt8 → List UInt8
  yangDbRuntimeGetvknum : List UInt8 → Nat
  yangDbRuntimeGetvkvtype : List UInt8 → Nat → Option (UInt8 × UInt8)
  yangValueString : UInt8 → List UInt8 → List UInt8 → Option (List UInt8)
  plain : ∀ anums, PlainName (component anums)
  string : ∀ vtype value hints, ∀ text ∈ yangValueString vtype value hints, (0 : UInt8) ∉ text

def pathKeysText (keys : List (List UInt8 × List UInt8)) : List UInt8 :=
  if keys = [] then [] else 124 :: keys.flatMap fun key => key.1 ++ 58 :: (key.2 ++ [124])

def nodesText (nodes : List PathNode) : List UInt8 :=
  nodes.flatMap fun node => 47 :: (node.name ++ pathKeysText node.keys)

namespace KeyTables

variable (tables : KeyTables) (kvs : List (List UInt8))

/-- The loop of `vkey_on_reg_node` over the keys that are left, with the index of the next value.
What is printed so far are the hints for it. -/
def regKeys (raps0 : UInt8) (caps : List UInt8) : Nat → Nat → Nat → List UInt8 →
    List (List UInt8 × List UInt8) × Nat
  | 0, _, kvi, _ => ([], kvi)
  | left + 1, index, kvi, rstr =>
    match tables.yangDbRuntimeGetvkvtype caps index with
    | none => ([], kvi)
    | some (vkey, vtype) =>
      let name := tables.component [raps0, vkey]
      let hints := (if index = 0 then [124] else rstr) ++ name ++ [58]
      let value := (kvs[kvi]?.bind fun kv => tables.yangValueString vtype kv hints).getD []
      let later := regKeys raps0 caps left (index + 1)
        (if kvi < kvs.length then kvi + 1 else kvi) (hints ++ value ++ [124])
      ((name, value) :: later.1, later.2)

/-- `vkey_on_reg_node` for the nodes up to the one with the keys, with the index of the next
value. -/
def vkeyOnRegNode (caps : List UInt8) (kvi : Nat) : List (List UInt8 × List UInt8) × Nat :=
  match caps with
  | [] => ([], kvi)
  | first :: rest =>
    let nkv := tables.yangDbRuntimeGetvknum caps
    if 0 < nkv then tables.regKeys kvs (first &&& 0x7f) caps nkv 0 kvi []
    else
      let other := (first ^^^ 0x80) :: rest
      tables.regKeys kvs (first &&& 0x7f) other (tables.yangDbRuntimeGetvknum other) 0 kvi []

/-- `name`. -/
def nameText : List UInt8 := [110, 97, 109, 101]

def vkeyOnXl4dataNode (caps : List UInt8) (kvi : Nat) : List (List UInt8 × List UInt8) × Nat :=
  if caps.length < 3 ∨ caps[1]? ≠ some ucMirror then ([], kvi)
  else if caps.length = 3 then ([(nameText, cstring (kvs.headD []))], kvi + 1)
  else tables.vkeyOnRegNode kvs (caps.drop 3) kvi

def xl4data (module : UInt8) : Bool := module = xl4DataRw || module = xl4DataRo

def vkeyOnNode (caps : List UInt8) (kvi : Nat) : List (List UInt8 × List UInt8) × Nat :=
  if caps.head?.any xl4data then tables.vkeyOnXl4dataNode kvs caps kvi
  else tables.vkeyOnRegNode kvs caps kvi

/-- The numbers that a node is looked up by: behind the module the last one, or up to four of
them. -/
def nextRaps (raps : List UInt8) (ap : UInt8) : List UInt8 :=
  raps.take (if raps.head?.any xl4data then 4 else 1) ++ [ap]

/-- The loop of `yang_db_runtime_apkv2keyvkstr` behind the first node: the keys of the node before
are printed with each node, and of the string of the node the part from its last slash on. -/
def printRest (caps raps : List UInt8) (kvi : Nat) : List UInt8 → List UInt8
  | [] => []
  | ap :: rest =>
    let keys := tables.vkeyOnNode kvs caps kvi
    let raps := nextRaps raps ap
    pathKeysText keys.1 ++ 47 :: tables.component raps ++
      printRest (caps ++ [ap]) raps keys.2 rest

/-- `yang_db_runtime_apkv2keyvkstr` for a module and its nodes. -/
def yangDbRuntimeApkv2keyvkstr (module first : UInt8) (rest : List UInt8) : List UInt8 :=
  47 :: tables.component [module] ++ 47 :: tables.component [module, first] ++
    tables.printRest kvs [module, first] [module, first] 0 rest

def restNodes (name : List UInt8) (caps raps : List UInt8) (kvi : Nat) : List UInt8 →
    List PathNode
  | [] => [⟨name, []⟩]
  | ap :: rest =>
    let keys := tables.vkeyOnNode kvs caps kvi
    let raps := nextRaps raps ap
    ⟨name, keys.1⟩ :: restNodes (tables.component raps) (caps ++ [ap]) raps keys.2 rest

def pathNodes (module first : UInt8) (rest : List UInt8) : List PathNode :=
  tables.restNodes kvs (tables.component [module, first]) [module, first] [module, first] 0 rest

end KeyTables

/-- A node whose names are plain, and whose values are strings without a bar. -/
structure PathNode.Plain (node : PathNode) : Prop where
  name : PlainName node.name
  keys : ∀ key ∈ node.keys, PlainName key.1 ∧ (0 : UInt8) ∉ key.2

section Printing

variable {tables : KeyTables} {kvs : List (List UInt8)}

theorem nodesText_cons (node : PathNode) (nodes : List PathNode) :
    nodesText (node :: nodes) = 47 :: (node.name ++ pathKeysText node.keys ++ nodesText nodes) := by
  simp [nodesText]

private theorem nodesText_restNodes (name caps raps : List UInt8) (kvi : Nat) (rest : List UInt8) :
    nodesText (tables.restNodes kvs name caps raps kvi rest) =
      47 :: (name ++ tables.printRest kvs caps raps kvi rest) := by
  induction rest generalizing name caps raps kvi with
  | nil => simp [KeyTables.restNodes, KeyTables.printRest, nodesText, pathKeysText]
  | cons ap rest ih =>
    rw [KeyTables.restNodes, nodesText_cons, ih, KeyTables.printRest]
    simp

theorem apkv2keyvkstr_eq (module first : UInt8) (rest : List UInt8) :
    tables.yangDbRuntimeApkv2keyvkstr kvs module first rest =
      47 :: (tables.component [module] ++ nodesText (tables.pathNodes kvs module first rest)) := by
  rw [KeyTables.yangDbRuntimeApkv2keyvkstr, KeyTables.pathNodes, nodesText_restNodes]
  simp

theorem regKeys_plain (raps0 : UInt8) (caps : List UInt8) (left index kvi : Nat)
    (rstr : List UInt8) : ∀ key ∈ (tables.regKeys kvs raps0 caps left index kvi rstr).1,
      PlainName key.1 ∧ (0 : UInt8) ∉ key.2 := by
  induction left generalizing index kvi rstr with
  | zero => exact nofun
  | succ left ih =>
    rw [KeyTables.regKeys]
    cases tables.yangDbRuntimeGetvkvtype caps index with
    | none => exact nofun
    | some found =>
      refine List.forall_mem_cons.mpr ⟨⟨tables.plain _, ?_⟩, ih _ _ _⟩
      dsimp only
      generalize (if index = 0 then _ else rstr) ++ _ ++ _ = hints
      cases value : kvs[kvi]?.bind fun kv => tables.yangValueString found.2 kv hints with
      | none => exact List.not_mem_nil
      | some text =>
        obtain ⟨kv, _, printed⟩ := Option.bind_eq_some_iff.mp value
        exact tables.string _ _ _ _ printed

theorem cstring_zero (octets : List UInt8) : (0 : UInt8) ∉ cstring octets := by
  induction octets with
  | nil => exact List.not_mem_nil
  | cons octet octets ih =>
    rw [cstring, List.takeWhile_cons]
    split
    · rename_i filled
      rw [List.mem_cons, not_or]
      exact ⟨fun same => of_decide_eq_true filled same.symm, ih⟩
    · exact List.not_mem_nil

private theorem plainName_nameText : PlainName KeyTables.nameText :=
  ⟨by decide, by decide, by decide, by decide, by decide⟩

private theorem vkeyOnNode_plain (caps : List UInt8) (kvi : Nat) :
    ∀ key ∈ (tables.vkeyOnNode kvs caps kvi).1, PlainName key.1 ∧ (0 : UInt8) ∉ key.2 := by
  have reg (caps : List UInt8) : ∀ key ∈ (tables.vkeyOnRegNode kvs caps kvi).1,
      PlainName key.1 ∧ (0 : UInt8) ∉ key.2 := by
    cases caps with
    | nil => exact nofun
    | cons first rest =>
      rw [KeyTables.vkeyOnRegNode]
      split
      · exact regKeys_plain _ _ _ _ _ _
      · exact regKeys_plain _ _ _ _ _ _
  rw [KeyTables.vkeyOnNode]
  split
  · rw [KeyTables.vkeyOnXl4dataNode]
    split
    · exact nofun
    · split
      · exact List.forall_mem_singleton.mpr ⟨plainName_nameText, cstring_zero _⟩
      · exact reg _
  · exact reg _

theorem pathNodes_plain (module first : UInt8) (rest : List UInt8) :
    ∀ node ∈ tables.pathNodes kvs module first rest, node.Plain := by
  have all (name caps raps : List UInt8) (kvi : Nat) (plain : PlainName name) :
      ∀ node ∈ tables.restNodes kvs name caps raps kvi rest, node.Plain := by
    induction rest generalizing name caps raps kvi with
    | nil => exact List.forall_mem_singleton.mpr ⟨plain, nofun⟩
    | cons ap rest ih =>
      exact List.forall_mem_cons.mpr
        ⟨⟨plain, vkeyOnNode_plain caps kvi⟩, ih _ _ _ _ (tables.plain _)⟩
  exact all _ _ _ _ (tables.plain _)

theorem pathNodes_ne_nil (tables : KeyTables) (kvs : List (List UInt8)) (module first : UInt8)
    (rest : List UInt8) : tables.pathNodes kvs module first rest ≠ [] := by
  cases rest with
  | nil => exact List.cons_ne_nil _ _
  | cons ap rest => exact List.cons_ne_nil _ _

end Printing

end EnetTsn.Uniconf
