import ContainerBuilder.Lib.Codec
import ContainerBuilder.Common.Data

/-!
# Text archives (`BuilderData.h`, `ClientData.h`)

`boost::archive::text_oarchive` writes a header, the same for every value of a type, and then each
value that `serialize` passes it after a space: a number in decimal, a string as its length, a space
and its bytes. `text_iarchive` throws unless it finds the header and then values of this form; what
follows the last of them it does not read. The header is a parameter. A number that no enumerator
has, which the library would store as it is, is not read here.

| here | there |
| --- | --- |
| `clientData`, `builderData` | the two `serialize` (`ClientData.h:60`, `BuilderData.h:22`) |
| `archive`                   | `text_oarchive` on a string stream, `<<` and `str()` |
| `unarchive`                 | `text_iarchive` on a string stream and `>>` |
| `Connection.serializedBuilder`, `Client.deserializeBuilder` | `builder_ready` (`Connection.cpp:51-55`) and `get_builder` (`Client/src/main.cpp:209-215`) |
| `Client.serializedClientData`, `Builder.deserializeClientData` | `write_client_data` (`Client/src/main.cpp:45-49`) and `read_client_data` (`Builder/src/main.cpp:34-38`) |
-/

namespace ContainerBuilder

open Lib

def LogPriority.load : Nat → Option LogPriority
  | 0 => some .error
  | 1 => some .success
  | 2 => some .warning
  | 3 => some .info
  | 4 => some .debug
  | _ => none

def ArchType.load : Nat → Option ArchType
  | 0 => some .x86_64
  | 1 => some .ppc64le
  | _ => none

def BackendType.load : Nat → Option BackendType
  | 0 => some .singularity
  | 1 => some .docker
  | 2 => some .unspecified
  | _ => none

def loadBool : Nat → Option Bool
  | 0 => some false
  | 1 => some true
  | _ => none

namespace Archive

def bool : Codec Bool := Codec.number Bool.toNat loadBool fun b => by cases b <;> rfl

def logPriority : Codec LogPriority :=
  Codec.number LogPriority.toNat LogPriority.load fun p => by cases p <;> rfl

def arch : Codec ArchType := Codec.number ArchType.toNat ArchType.load fun a => by cases a <;> rfl

def backend : Codec BackendType :=
  Codec.number BackendType.toNat BackendType.load fun b => by cases b <;> rfl

def builderData : Codec BuilderData :=
  (Codec.string.seq (Codec.string.seq Codec.string)).map
    (fun r => ⟨r.1, r.2.1, r.2.2⟩) (fun b => (b.host, b.port, b.id)) fun _ => rfl

def clientData : Codec ClientData :=
  (Codec.string.seq <| bool.seq <| bool.seq <| logPriority.seq <| arch.seq <| backend.seq <|
    bool.seq <| Codec.string.seq <| Codec.string.seq Codec.string).map
    (fun (userId, tty, force, logPriority, arch, backend, transferContext, containerPath,
        definitionPath, queueHost) =>
      ⟨userId, tty, force, logPriority, arch, backend, transferContext, containerPath,
        definitionPath, queueHost⟩)
    (fun d => (d.userId, d.tty, d.force, d.logPriority, d.arch, d.backend, d.transferContext,
      d.containerPath, d.definitionPath, d.queueHost)) fun _ => rfl

end Archive

variable {β : Type}

def archive (header : Bytes) (c : Codec β) (b : β) : Bytes := header ++ c.save b

def unarchive (header : Bytes) (c : Codec β) (text : Bytes) : Except Exception β :=
  if header <+: text then
    match c.load (text.drop header.length) with
    | some (b, _) => .ok b
    | none => .error .archiveException
  else .error .archiveException

/-- What was archived is read back. -/
theorem unarchive_archive (header : Bytes) (c : Codec β) (b : β) :
    unarchive header c (archive header c b) = .ok b := by
  have hload : c.load (c.save b) = some (b, []) := by
    simpa using c.load_save b [] delimited_nil
  unfold unarchive archive
  rw [if_pos (List.prefix_append ..), List.drop_left, hload]

/-- No two values have the same text. -/
theorem archive_injective (header : Bytes) (c : Codec β) :
    Function.Injective (archive header c) := by
  intro b b' he
  have hread : unarchive header c (archive header c b) = .ok b := unarchive_archive header c b
  rw [he, unarchive_archive] at hread
  exact (Except.ok.inj hread).symm

example : archive (ascii "22 serialization::archive 16 0 0") Archive.builderData
    ⟨ascii "10.0.0.1", ascii "8080", ascii "a b"⟩ =
      ascii "22 serialization::archive 16 0 0 8 10.0.0.1 4 8080 3 a b" := by decide +kernel

/-! ## Builders and client data -/

/-- `request_string` in `builder_ready`. -/
def Connection.serializedBuilder (header : Bytes) (builder : BuilderData) : Bytes :=
  archive header Archive.builderData builder

/-- What `get_builder` makes of the message it has read. -/
def Client.deserializeBuilder (header builderDataString : Bytes) : Except Exception BuilderData :=
  unarchive header Archive.builderData builderDataString

/-- `serialized_client_data` in `write_client_data`. -/
def Client.serializedClientData (header : Bytes) (clientData : ClientData) : Bytes :=
  archive header Archive.clientData clientData

/-- What `read_client_data` makes of the message it has read. -/
def Builder.deserializeClientData (header clientDataString : Bytes) : Except Exception ClientData :=
  unarchive header Archive.clientData clientDataString

/-- **Builders and client data arrive as they were sent**, whatever bytes their strings hold, and
no two of them are sent as the same text. -/
theorem archives_round_trip (header : Bytes) :
    (∀ builder, Client.deserializeBuilder header (Connection.serializedBuilder header builder) =
      .ok builder) ∧
    (∀ clientData, Builder.deserializeClientData header
      (Client.serializedClientData header clientData) = .ok clientData) ∧
    Function.Injective (Connection.serializedBuilder header) ∧
    Function.Injective (Client.serializedClientData header) := by
  refine ⟨fun builder => ?_, fun clientData => ?_, ?_, ?_⟩
  · exact unarchive_archive header Archive.builderData builder
  · exact unarchive_archive header Archive.clientData clientData
  · exact archive_injective header Archive.builderData
  · exact archive_injective header Archive.clientData

end ContainerBuilder
