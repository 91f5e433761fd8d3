/-!
# The data the programs exchange (`Common/include`)

| here | there |
| --- | --- |
| `Bytes`                        | `std::string`: bytes, not characters |
| `ErrorCode`                    | `std::error_code`; `none` is the value that tests false |
| `toSizeT`                      | arithmetic on `std::size_t` and on the `uintmax_t` of a file size, both of 64 bits |
| `BuilderData`, `sameBuilder`   | `BuilderData` and its `operator==`, which compares the ids only (`BuilderData.cpp:7`) |
| `ClientData`                   | `ClientData.h:43` |
| `LogPriority`, `ArchType`, `BackendType` | the enumerations of `Logger.h:6` and `ClientData.h:10-19`, with the integers they are stored as |

Log output is left out throughout: no control flow depends on it.
-/

namespace ContainerBuilder

/-- A `std::string`. -/
abbrev Bytes := List UInt8

/-- The bytes of an ASCII literal of the source. -/
def ascii (s : String) : Bytes := s.toList.map fun c => c.toNat.toUInt8

/-- `std::error_code`: no error, or the value of one. -/
abbrev ErrorCode := Option Nat

/-- The value modulo `2 ^ 64`, as a conversion to `std::size_t` or an operation on it gives it. -/
def toSizeT (n : Int) : Nat := (n % UInt64.size).toNat

theorem toSizeT_of_nat {n : Nat} (h : n < UInt64.size) : toSizeT n = n := by
  unfold toSizeT UInt64.size at *; omega

theorem toSizeT_sub {m n : Nat} (h : n ≤ m) (hm : m < UInt64.size) :
    toSizeT ((m : Int) - (n : Int)) = m - n := by
  unfold toSizeT UInt64.size at *; omega

/-- What a function throws. -/
inductive Exception
  /-- `std::runtime_error` -/
  | runtimeError (what : Bytes)
  /-- `std::ios_base::failure`, from a file stream whose `exceptions` are set. -/
  | iosFailure
  /-- `boost::archive::archive_exception` -/
  | archiveException
deriving DecidableEq, Repr

/-- What a function throws where reads, writes and system calls may fail. -/
inductive Thrown
  | exception (ex : Exception)
  /-- `boost::system::system_error`, from a read or a write of a stream -/
  | systemError (value : Nat)
  /-- `boost::filesystem::filesystem_error` -/
  | filesystemError (value : Nat)
deriving DecidableEq, Repr

/-! ## Builders -/

structure BuilderData where
  host : Bytes
  port : Bytes
  id : Bytes
deriving DecidableEq, Repr

/-- A default constructed `BuilderData` (`no_builder` in `OpenStack.h`). -/
def noBuilder : BuilderData := ⟨[], [], []⟩

/-- `operator==` (BuilderData.cpp:7). -/
def sameBuilder (lhs rhs : BuilderData) : Bool := lhs.id == rhs.id

/-- `std::list::remove`: drops every builder that `operator==` identifies with `builder`. -/
def removeBuilder (builder : BuilderData) (l : List BuilderData) : List BuilderData :=
  l.filter fun b => !sameBuilder b builder

/-- The ids of a list of builders. -/
def ids (l : List BuilderData) : List Bytes := l.map BuilderData.id

@[simp] theorem ids_nil : ids [] = [] := rfl
@[simp] theorem ids_cons (b : BuilderData) (l : List BuilderData) : ids (b :: l) = b.id :: ids l := rfl
@[simp] theorem ids_append (l m : List BuilderData) : ids (l ++ m) = ids l ++ ids m :=
  List.map_append

theorem mem_ids_of_mem {b : BuilderData} {l : List BuilderData} (h : b ∈ l) : b.id ∈ ids l :=
  List.mem_map_of_mem h

theorem mem_removeBuilder {b x : BuilderData} {l : List BuilderData} :
    x ∈ removeBuilder b l ↔ x ∈ l ∧ x.id ≠ b.id := by
  simp [removeBuilder, sameBuilder]

theorem removeBuilder_sublist (b : BuilderData) (l : List BuilderData) :
    (removeBuilder b l).Sublist l :=
  List.filter_sublist

theorem length_removeBuilder_le (b : BuilderData) (l : List BuilderData) :
    (removeBuilder b l).length ≤ l.length :=
  (removeBuilder_sublist b l).length_le

/-! ## Clients -/

/-- `LogPriority`, ordered by its integers (`Logger.h:6`). -/
inductive LogPriority
  | error | success | warning | info | debug
deriving DecidableEq, Repr

def LogPriority.toNat : LogPriority → Nat
  | .error => 0
  | .success => 1
  | .warning => 2
  | .info => 3
  | .debug => 4

inductive ArchType
  | x86_64 | ppc64le
deriving DecidableEq, Repr

def ArchType.toNat : ArchType → Nat
  | .x86_64 => 0
  | .ppc64le => 1

inductive BackendType
  | singularity | docker | unspecified
deriving DecidableEq, Repr

def BackendType.toNat : BackendType → Nat
  | .singularity => 0
  | .docker => 1
  | .unspecified => 2

structure ClientData where
  userId : Bytes
  tty : Bool
  force : Bool
  logPriority : LogPriority
  arch : ArchType
  backend : BackendType
  transferContext : Bool
  containerPath : Bytes
  definitionPath : Bytes
  queueHost : Bytes
deriving DecidableEq, Repr

end ContainerBuilder
