import ContainerBuilder.Client.ExitStatus
import ContainerBuilder.Lib.Arrivals

/-!
# What the readers take from a connection that may break

Client and builder read messages as wholes: the client data, a file and its checksum, the output of
the build and its exit code. Each of the readers of the model is here shown to take a whole message
off what arrives (`readMessage`), so that the rules of `Lib.Arrivals` apply to it.

| here | there |
| --- | --- |
| `Arrival.frame`           | what a read returns, `none` if it fails |
| `messageIs_iff`           | `stream.read` into a dynamic buffer |
| `ImageIs.reads`, `receive_reads` | `read_file` |
| `relay_reads`             | `stream_build` of the client |
-/

namespace ContainerBuilder

open Lib

def Arrival.frame : Arrival → Option (Frame UInt8)
  | .piece p _ => some p
  | .readError _ _ => none

@[simp] theorem frame_piece (p : Frame UInt8) (failed : Option Nat) :
    Arrival.frame (.piece p failed) = some p := rfl

@[simp] theorem frame_readError (value kept : Nat) :
    Arrival.frame (.readError value kept) = none := rfl

/-- A message that arrives as a whole is one that can be read. -/
theorem messageIs_iff (as : List Arrival) (text : Bytes) :
    MessageIs text as ↔ ∃ rest, readMessage Arrival.frame as = some (text, rest) := by
  unfold MessageIs
  induction as generalizing text with
  | nil => simp [messageArrived, readMessage]
  | cons a as ih =>
    cases a with
    | readError value kept => simp [messageArrived, readMessage]
    | piece p failed =>
      by_cases hfin : p.fin = true
      · simp [messageArrived, receivedText, readMessage, hfin]
      · have hmore := ih (receivedText as)
        simp only [messageArrived, receivedText, readMessage, frame_piece, hfin, if_false,
          Option.map_eq_some_iff, Prod.mk.injEq, Prod.exists, Bool.false_eq_true]
        constructor
        · rintro ⟨hcomplete, rfl⟩
          obtain ⟨rest, hrest⟩ := hmore.1 ⟨hcomplete, rfl⟩
          exact ⟨rest, _, rest, hrest, rfl, rfl⟩
        · rintro ⟨rest, text', rest', hread, rfl, rfl⟩
          obtain ⟨hcomplete, htext⟩ := (ih text').2 ⟨_, hread⟩
          exact ⟨hcomplete, by rw [htext]⟩

/-- The image that arrives is the first message, and its checksum the next. -/
theorem imageArrived_reads {as : List Arrival} (h : imageArrived as = .complete) :
    readMessage Arrival.frame as = some (received as, afterImage as) := by
  induction as with
  | nil => cases h
  | cons a as ih =>
    cases a with
    | readError value kept => cases h
    | piece p failed =>
      cases failed with
      | some kept => cases h
      | none =>
        by_cases hfin : p.fin = true
        · simp [readMessage, received, afterImage, hfin]
        · rw [imageArrived, if_neg hfin] at h
          simp [readMessage, received, afterImage, hfin, ih h]

theorem ImageIs.reads {as : List Arrival} (h : ImageIs as) :
    readMessage Arrival.frame as = some (received as, afterImage as) ∧
      ∃ rest, readMessage Arrival.frame (afterImage as) = some (imageChecksum as, rest) :=
  ⟨imageArrived_reads h.1, (messageIs_iff _ _).1 h.2⟩

/-- **`read_file` has read a file and its checksum** when it returns. -/
theorem receive_reads {fileName : Bytes} {before : Option Bytes} {opens : Bool} {as : List Arrival}
    (h : (receive fileName before opens as).result = .ok ()) :
    opens = true ∧ ∃ file rest rest',
      (receive fileName before opens as).container = some file ∧
        readMessage Arrival.frame as = some (file, rest) ∧
          readMessage Arrival.frame rest = some (checksumText file, rest') := by
  have hfits : Fits _ _ (receive fileName before opens as).result := fits_receive _ before opens as
  rw [h] at hfits
  obtain ⟨⟨rfl, himage⟩, -⟩ := hfits
  obtain ⟨hread, rest', hsum⟩ := himage.reads
  obtain ⟨file, hreturned⟩ := returned_of_result h
  -- the file is opened empty
  obtain ⟨rfl, -⟩ := (ReadImage.run_content fileName as []).2 file hreturned
  refine ⟨rfl, received as, _, rest', ?_, hread, hsum⟩
  rw [hreturned]
  rfl

/-! ## The output of a build -/

/-- Reading the exit code. -/
theorem relay_exitCode_reads {printed exitCodeString : Bytes} {as as' : List Arrival}
    (h : relay (.readExitCode printed exitCodeString) as = .ok as') :
    ∃ text, readMessage Arrival.frame as = some (text, as') ∧
      exitCodeString ++ text = ascii "0" := by
  induction as generalizing exitCodeString with
  | nil => cases h
  | cons a as ih =>
    cases a with
    | readError value kept => cases as <;> cases h
    | piece p failed =>
      by_cases hfin : p.fin = true
      · by_cases hcode : exitCodeString ++ p.payload = ascii "0"
        · refine ⟨p.payload, ?_, hcode⟩
          have has : as = as' := by
            simpa [relay, Arrival.read, ClientRelay.step, hfin, ClientRelay.checkExitCode,
              Client.checkExitCode, hcode] using h
          simp [readMessage, hfin, has]
        · simp [relay, Arrival.read, ClientRelay.step, hfin, ClientRelay.checkExitCode,
            Client.checkExitCode, hcode] at h
      · simp only [relay, Arrival.read, ClientRelay.step, hfin] at h
        obtain ⟨text, hread, htext⟩ := ih h
        refine ⟨p.payload ++ text, ?_, by rw [← List.append_assoc, htext]⟩
        simp [readMessage, hfin, hread]

/-- **`stream_build` has read the whole output**, and that the build has succeeded, when it
returns. -/
theorem relay_reads {ts : List (Token UInt8)} {as as' : List Arrival}
    (hd : Delivers Arrival.frame ts as) {printed : Bytes} {done : Bool}
    (h : relay (.streaming printed done) as = .ok as') :
    ∃ output rest, readMessage Arrival.frame as = some (output, rest) ∧
      readMessage Arrival.frame rest = some (ascii "0", as') := by
  induction hd generalizing printed done with
  | @breaks ts as hnone =>
    -- once the connection is broken, the loop goes on or the exit code cannot be read
    exfalso
    induction as generalizing printed done with
    | nil => cases h
    | cons a as ih =>
      have ha := hnone a (List.mem_cons_self ..)
      have has : ∀ a ∈ as, Arrival.frame a = none := fun a ha => hnone a (List.mem_cons_of_mem _ ha)
      cases a with
      | piece p failed => cases ha
      | readError value kept =>
        cases done with
        | false => exact ih has h
        | true =>
          have hcode : relay (.readExitCode (printed ++ []) []) as = .ok as' := h
          obtain ⟨text, hread, -⟩ := relay_exitCode_reads hcode
          rw [readMessage_broken has] at hread
          cases hread
  | @piece a p ts as ha hd ih =>
    cases a with
    | readError value kept => cases ha
    | piece q failed =>
      obtain rfl : q = p := Option.some.inj ha
      by_cases hfin : q.fin = true
      · simp only [relay, Arrival.read, ClientRelay.step, ReadSome.isMessageDone, hfin,
          if_true] at h
        obtain ⟨text, hread, rfl⟩ := relay_exitCode_reads h
        exact ⟨q.payload, as, by simp [readMessage, hfin], hread⟩
      · simp only [relay, Arrival.read, ClientRelay.step, ReadSome.isMessageDone, hfin] at h
        obtain ⟨output, rest, hread, hcode⟩ := ih h
        exact ⟨q.payload ++ output, rest, by simp [readMessage, hfin, hread], hcode⟩

end ContainerBuilder
