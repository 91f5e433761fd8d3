import ContainerBuilder.Common.PropertyTree
import ContainerBuilder.BuilderQueue.Queue

/-!
# The status of the queue (`BuilderQueue.cpp:6-34`, `Client/src/status.cpp`)

The queue writes its two lists as JSON and `container-builder-status` reads them from it. The two
programs share no schema: an empty list has no children and is written as a string, not as an array,
and every other list as an array of objects. `status_round_trip`: both come out as the same lists.

| here | there |
| --- | --- |
| `builderNode`, `buildersTree` | `builder_node`; `active_tree` and `reserve_tree` |
| `BuilderQueue.statusJson`     | `status_json` (`BuilderQueue.cpp:6-34`) |
| `Client.readStatus`           | what `print_status` reads (`status.cpp:49-75`), an error as `none` |

`read_json` is a parameter. What `print_status` writes to `std::cout` is what it has read, between
fixed labels, and is left out.
-/

namespace ContainerBuilder

open Lib

variable {H : Type}

/-! ## Writing -/

def builderNode (builder : BuilderData) : Ptree :=
  ((Ptree.empty.add (ascii "id") builder.id).add (ascii "host") builder.host).add (ascii "port")
    builder.port

def buildersTree (builders : List BuilderData) : Ptree :=
  builders.foldl (fun tree builder => tree.pushBack [] (builderNode builder)) Ptree.empty

namespace BuilderQueue

def statusTree (q : BuilderQueue H) : Ptree :=
  (Ptree.empty.addChild (ascii "active") (buildersTree q.activeBuilders)).addChild
    (ascii "reserve") (buildersTree q.reserveBuilders)

def statusJson (q : BuilderQueue H) : Option Bytes := writeJson q.statusTree

end BuilderQueue

/-! ## Reading -/

namespace Client

/-- The three `get` of one builder (`status.cpp:57-59`, `:69-71`). -/
def readBuilder (node : Ptree) : Option BuilderData :=
  (node.get (ascii "id")).bind fun id =>
    (node.get (ascii "host")).bind fun host =>
      (node.get (ascii "port")).map fun port => ⟨host, port, id⟩

/-- `for (auto builder : status_tree.get_child(key))`. -/
def readBuilders (key : Bytes) (statusTree : Ptree) : Option (List BuilderData) :=
  (statusTree.getChild key).bind fun list => list.children.mapM fun builder => readBuilder builder.2

def readStatus (readJson : Bytes → Option Ptree) (queueStatusString : Bytes) :
    Option (List BuilderData × List BuilderData) :=
  (readJson queueStatusString).bind fun statusTree =>
    (readBuilders (ascii "active") statusTree).bind fun active =>
      (readBuilders (ascii "reserve") statusTree).map fun reserve => (active, reserve)

end Client

/-! ## Round trip -/

/-- All three strings are ASCII. -/
def BuilderData.Ascii (builder : BuilderData) : Prop :=
  JsonText.Ascii builder.id ∧ JsonText.Ascii builder.host ∧ JsonText.Ascii builder.port

theorem buildersTree_eq (builders : List BuilderData) :
    buildersTree builders = .node [] (builders.map fun builder => ([], builderNode builder)) := by
  have key : ∀ (l : List BuilderData) (children : List (Bytes × Ptree)),
      l.foldl (fun (tree : Ptree) builder => tree.pushBack [] (builderNode builder))
          (.node [] children) =
        .node [] (children ++ l.map fun builder => ([], builderNode builder)) := by
    intro l
    induction l with
    | nil => intro children; simp
    | cons builder l ih =>
      intro children
      rw [List.foldl_cons, Ptree.pushBack_node, ih]
      simp
  exact key builders []

theorem readBuilder_builderNode (builder : BuilderData) :
    Client.readBuilder (builderNode builder) = some builder := rfl

/-- A list of any length, the empty one included, is read as it was. -/
theorem mapM_readBuilder (builders : List BuilderData) :
    (buildersTree builders).children.mapM (fun c => Client.readBuilder c.2) = some builders := by
  rw [buildersTree_eq, Ptree.children]
  induction builders with
  | nil => rfl
  | cons builder builders ih =>
    rw [List.map_cons, List.mapM_cons, readBuilder_builderNode, ih]
    rfl

theorem readBuilders_statusTree (q : BuilderQueue H) :
    Client.readBuilders (ascii "active") q.statusTree = some q.activeBuilders ∧
      Client.readBuilders (ascii "reserve") q.statusTree = some q.reserveBuilders :=
  ⟨mapM_readBuilder q.activeBuilders, mapM_readBuilder q.reserveBuilders⟩

theorem builderNode_verify (builder : BuilderData) (depth : Nat) :
    (builderNode builder).verify (depth + 1) = true := by
  simp [builderNode, Ptree.empty, Ptree.add, Ptree.addChild, Ptree.pushBack, Ptree.verify,
    verifyChildren]

/-- No node has both data and children. -/
theorem statusTree_verify (q : BuilderQueue H) : q.statusTree.verify 0 = true := by
  have hlist : ∀ builders, (buildersTree builders).verify 1 = true := by
    intro builders
    rw [buildersTree_eq, Ptree.verify, Bool.and_eq_true, verifyChildren_iff]
    refine ⟨rfl, fun c hc => ?_⟩
    obtain ⟨builder, -, rfl⟩ := List.mem_map.1 hc
    exact builderNode_verify builder 1
  simp [BuilderQueue.statusTree, Ptree.empty, Ptree.addChild, Ptree.pushBack, Ptree.verify,
    verifyChildren, hlist]

theorem builderNode_ascii {builder : BuilderData} (h : builder.Ascii) :
    (builderNode builder).Ascii := by
  obtain ⟨hid, hhost, hport⟩ := h
  have hnil : JsonText.Ascii [] := by decide
  have hkey : JsonText.Ascii (ascii "id") ∧ JsonText.Ascii (ascii "host") ∧
      JsonText.Ascii (ascii "port") := by decide
  exact ⟨hnil, hkey.1, ⟨hid, trivial⟩, hkey.2.1, ⟨hhost, trivial⟩, hkey.2.2, ⟨hport, trivial⟩,
    trivial⟩

theorem statusTree_ascii {q : BuilderQueue H}
    (h : ∀ builder ∈ q.activeBuilders ++ q.reserveBuilders, builder.Ascii) :
    q.statusTree.Ascii := by
  have hnil : JsonText.Ascii [] := by decide
  have hlist : ∀ builders : List BuilderData, (∀ builder ∈ builders, builder.Ascii) →
      (buildersTree builders).Ascii := by
    intro builders hbuilders
    rw [buildersTree_eq, Ptree.Ascii, asciiChildren_iff]
    refine ⟨hnil, fun c hc => ?_⟩
    obtain ⟨builder, hb, rfl⟩ := List.mem_map.1 hc
    exact ⟨hnil, builderNode_ascii (hbuilders builder hb)⟩
  have hkey : JsonText.Ascii (ascii "active") ∧ JsonText.Ascii (ascii "reserve") := by decide
  exact ⟨hnil, hkey.1, hlist _ fun b hb => h b (List.mem_append_left _ hb), hkey.2,
    hlist _ fun b hb => h b (List.mem_append_right _ hb), trivial⟩

/-- **The status arrives as it is**: `status_json` writes, and what `print_status` reads of its text
are the two lists. -/
theorem status_round_trip (readJson : Bytes → Option Ptree)
    (hread : ∀ text tree, readForms text = some tree → readJson text = some tree)
    (q : BuilderQueue H)
    (hascii : ∀ builder ∈ q.activeBuilders ++ q.reserveBuilders, builder.Ascii) :
    ∃ text, q.statusJson = some text ∧
      Client.readStatus readJson text = some (q.activeBuilders, q.reserveBuilders) := by
  have hwrite : q.statusJson = some (q.statusTree.write 0 ++ [10]) := by
    rw [BuilderQueue.statusJson, writeJson, if_pos (statusTree_verify q)]
  obtain ⟨hactive, hreserve⟩ := readBuilders_statusTree q
  refine ⟨_, hwrite, ?_⟩
  have htree := hread _ _ (readForms_writeJson (statusTree_ascii hascii) hwrite)
  simp only [Client.readStatus, htree, Option.bind_some, hactive, hreserve, Option.map_some]

/-- One active builder whose strings need escapes, and no reserve. -/
def oddQueue : BuilderQueue Unit :=
  ⟨[], [], [⟨ascii "a.\"b\"", [0, 10, 92, 47], ascii "\\u0041"⟩], 0⟩

theorem status_round_trip_odd : ∃ text, oddQueue.statusJson = some text ∧
    Client.readStatus readForms text = some (oddQueue.activeBuilders, oddQueue.reserveBuilders) :=
  status_round_trip readForms (fun _ _ h => h) oddQueue (by
    intro builder hb
    obtain rfl : builder = ⟨ascii "a.\"b\"", [0, 10, 92, 47], ascii "\\u0041"⟩ :=
      List.mem_singleton.1 hb
    exact ⟨by decide, by decide, by decide⟩)

end ContainerBuilder
