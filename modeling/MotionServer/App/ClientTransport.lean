import MotionServer.Lib.Except
import MotionServer.Lib.Framing
import MotionServer.Python.Text

/-!
# The transport of a client

A client sends lines of JSON in UTF-8. The server receives them in chunks of at most 4096 bytes.

* `decodeUtf8`: `bytes.decode("utf-8")`;
* `drainLines`: the loop over the lines in the buffer, `serviceClient` the service of one chunk;
* `serviceAll`: the service of the chunks of a stream;
* **`framing_independent_iff`**: the ways to cut a stream that do not change what is dispatched.
-/

namespace MotionServer

/-! ## UTF-8 -/

/-- `text.encode("utf-8")`. -/
def encodeUtf8 (text : List Char) : List UInt8 := text.flatMap String.utf8EncodeChar

/-- `bytes.decode("utf-8")`. -/
def decodeUtf8 (bytes : List UInt8) : Except PyExc (List Char) :=
  match bytes.toByteArray.utf8Decode? with
  | some text => .ok text.toList
  | none => .error .unicodeDecodeError

theorem decodeUtf8_encodeUtf8 (text : List Char) : decodeUtf8 (encodeUtf8 text) = .ok text := by
  have h : (encodeUtf8 text).toByteArray.utf8Decode? = some text.toArray :=
    List.utf8Decode?_utf8Encode
  rw [decodeUtf8, h]

theorem encodeUtf8_injective {text text' : List Char} (h : encodeUtf8 text = encodeUtf8 text') :
    text = text' := by
  have hdecode := decodeUtf8_encodeUtf8 text
  rw [h, decodeUtf8_encodeUtf8] at hdecode
  exact (Except.ok.inj hdecode).symm

theorem decodeUtf8_eq_ok_iff {bytes : List UInt8} {text : List Char} :
    decodeUtf8 bytes = .ok text ↔ bytes = encodeUtf8 text := by
  constructor
  · intro h
    unfold decodeUtf8 at h
    split at h
    · rename_i chars hchars
      have hsome : bytes.toByteArray.utf8Decode?.isSome = true := by rw [hchars]; rfl
      have hencode : (bytes.toByteArray.utf8Decode?.get hsome).toList.utf8Encode =
        bytes.toByteArray := ByteArray.utf8Encode_get_utf8Decode?
      simp only [hchars, Option.get_some] at hencode
      rw [← Except.ok.inj h]
      exact (List.toByteArray_inj.mp hencode).symm
    · cases h
  · rintro rfl
    exact decodeUtf8_encodeUtf8 text

theorem encodeUtf8_flatten (pieces : List (List Char)) :
    encodeUtf8 pieces.flatten = (pieces.map encodeUtf8).flatten := by
  rw [encodeUtf8, List.flatMap_def, List.map_flatten, List.flatten_flatten, List.map_map]
  rfl

/-! ## Lines -/

/-- What `json.loads` makes of a line: an object, another value, or a `JSONDecodeError`. -/
inductive LoadedLine (M : Type)
  | object (message : M)
  | other
  | malformed

/-- What the server does about a line. -/
inductive ClientEvent (M : Type)
  | dispatch (message : M)
  | invalidRequest (reason : String)
  deriving DecidableEq

variable {M : Type} (loads : List Char → LoadedLine M)

/-- The body of the loop in `service_client`: a blank line is skipped. -/
def serviceLine (line : List Char) : List (ClientEvent M) :=
  if stripChars line = [] then []
  else match loads line with
    | .object message => [.dispatch message]
    | .other => [.invalidRequest "request must be a JSON object"]
    | .malformed => [.invalidRequest "malformed_json"]

/-- `client["buffer"].split("\n", 1)`: the first line and the rest. -/
def splitFirstLine (buffer : List Char) : List Char × List Char :=
  (buffer.takeWhile (· ≠ '\n'), (buffer.dropWhile (· ≠ '\n')).tail)

theorem splitFirstLine_append_cons {line : List Char} (h : '\n' ∉ line) (rest : List Char) :
    splitFirstLine (line ++ '\n' :: rest) = (line, rest) := by
  have hline : ∀ c ∈ line, decide (c ≠ '\n') = true := by
    intro c hc
    have hne : c ≠ '\n' := by
      rintro rfl
      exact h hc
    simpa using hne
  rw [splitFirstLine, List.takeWhile_append_of_pos hline, List.dropWhile_append_of_pos hline]
  simp

theorem length_splitFirstLine_lt {buffer : List Char} (h : '\n' ∈ buffer) :
    (splitFirstLine buffer).2.length < buffer.length := by
  obtain ⟨line, rest, rfl, hline⟩ := List.eq_append_cons_of_mem h
  rw [splitFirstLine_append_cons hline, List.length_append, List.length_cons]
  show rest.length < line.length + (rest.length + 1)
  omega

/-- The loop in `service_client`: what is done, and the buffer after it. -/
def drainLines (buffer : List Char) : List (ClientEvent M) × List Char :=
  if _h : '\n' ∈ buffer then
    let split := splitFirstLine buffer
    let rest := drainLines split.2
    (serviceLine loads split.1 ++ rest.1, rest.2)
  else ([], buffer)
termination_by buffer.length
decreasing_by exact length_splitFirstLine_lt _h

/-- **The loop services the lines of the buffer and keeps its tail.** -/
theorem drainLines_eq (buffer : List Char) : drainLines loads buffer =
    ((Framing.frames '\n' buffer).flatMap (serviceLine loads), Framing.residue '\n' buffer) := by
  induction buffer using Framing.induction_on_frames '\n' with
  | hresidue buffer h =>
    rw [drainLines, dif_neg h, Framing.frames_of_notMem _ h, Framing.residue_of_notMem _ h]
    rfl
  | hframe line rest h ih =>
    rw [drainLines, dif_pos (by simp), splitFirstLine_append_cons h]
    show (serviceLine loads line ++ (drainLines loads rest).1, (drainLines loads rest).2) = _
    rw [ih, Framing.frames_append_cons h, Framing.residue_append_cons h, List.flatMap_cons]

/-! ## Chunks -/

/-- What a client's socket has: nothing to read, or bytes. No bytes mean that it was closed. -/
abbrev SocketInput := Option (List UInt8)

/-- `service_client`: whether the client stays, what is done, and the buffer. -/
def serviceClient (buffer : List Char) :
    SocketInput → Except PyExc (Bool × List (ClientEvent M) × List Char)
  | none => .ok (true, [], buffer)
  | some [] => .ok (false, [], buffer)
  | some chunk => do
    let text ← decodeUtf8 chunk
    pure (true, drainLines loads (buffer ++ text))

/-- A chunk that `conn.recv(4096)` returns. -/
structure Chunk where
  bytes : List UInt8
  ne_nil : bytes ≠ []
  length_le : bytes.length ≤ 4096

/-- The service of chunks, one after the other. -/
def serviceAll : (buffer : List Char) → List Chunk →
    Except PyExc (List (ClientEvent M) × List Char)
  | buffer, [] => .ok ([], buffer)
  | buffer, chunk :: chunks => do
    let serviced ← serviceClient loads buffer (some chunk.bytes)
    let rest ← serviceAll serviced.2.2 chunks
    pure (serviced.2.1 ++ rest.1, rest.2)

/-! ## Ways to cut a stream -/

/-- A way to cut the bytes of a text into chunks. -/
structure Chunking (text : List Char) where
  chunks : List Chunk
  flatten : (chunks.map Chunk.bytes).flatten = encodeUtf8 text

/-- Every cut is between two characters. -/
def Chunking.BetweenCharacters {text : List Char} (chunking : Chunking text) : Prop :=
  ∃ pieces : List (List Char), chunking.chunks.map Chunk.bytes = pieces.map encodeUtf8

/-- What is dispatched for the lines of a text. -/
def textEvents (text : List Char) : List (ClientEvent M) :=
  (Framing.frames '\n' text).flatMap (serviceLine loads)

theorem serviceClient_chunk (buffer : List Char) (chunk : Chunk) :
    serviceClient loads buffer (some chunk.bytes) =
      decodeUtf8 chunk.bytes >>= fun text => pure (true, drainLines loads (buffer ++ text)) := by
  obtain ⟨bytes, hne, -⟩ := chunk
  cases bytes with
  | nil => exact absurd rfl hne
  | cons byte bytes => rfl

/-- The service of chunks that are decoded one by one. -/
theorem serviceAll_of_pieces {chunks : List Chunk} {pieces : List (List Char)}
    (h : chunks.map Chunk.bytes = pieces.map encodeUtf8) (buffer : List Char) :
    serviceAll loads buffer chunks =
      .ok ((Framing.feed '\n' buffer pieces).1.flatMap (serviceLine loads),
        (Framing.feed '\n' buffer pieces).2) := by
  induction chunks generalizing pieces buffer with
  | nil =>
    obtain rfl : pieces = [] := by simpa using h.symm
    rfl
  | cons chunk chunks ih =>
    cases pieces with
    | nil => simp at h
    | cons piece pieces =>
      rw [List.map_cons, List.map_cons, List.cons.injEq] at h
      rw [serviceAll, serviceClient_chunk, h.1, decodeUtf8_encodeUtf8]
      show serviceAll loads (drainLines loads (buffer ++ piece)).2 chunks >>=
        (fun rest => pure ((drainLines loads (buffer ++ piece)).1 ++ rest.1, rest.2)) = _
      rw [ih h.2, drainLines_eq, Framing.feed]
      show Except.ok _ = Except.ok _
      rw [List.flatMap_append]

/-- Chunks that are serviced are decoded one by one. -/
theorem exists_pieces_of_serviceAll {chunks : List Chunk} {buffer : List Char}
    {result : List (ClientEvent M) × List Char} (h : serviceAll loads buffer chunks = .ok result) :
    ∃ pieces : List (List Char), chunks.map Chunk.bytes = pieces.map encodeUtf8 := by
  induction chunks generalizing buffer result with
  | nil => exact ⟨[], rfl⟩
  | cons chunk chunks ih =>
    obtain ⟨serviced, hserviced, h⟩ := Except.bind_eq_ok.mp h
    obtain ⟨rest, hrest, -⟩ := Except.bind_eq_ok.mp h
    rw [serviceClient_chunk] at hserviced
    obtain ⟨piece, hpiece, -⟩ := Except.bind_eq_ok.mp hserviced
    obtain ⟨pieces, hpieces⟩ := ih hrest
    refine ⟨piece :: pieces, ?_⟩
    rw [List.map_cons, List.map_cons, hpieces, decodeUtf8_eq_ok_iff.mp hpiece]

/-- **The chunks of a text are all serviced, with the lines and the tail of the text, exactly when
every cut is between two characters.** -/
theorem framing_independent_iff {text : List Char} (chunking : Chunking text) :
    serviceAll loads [] chunking.chunks =
        .ok (textEvents loads text, Framing.residue '\n' text) ↔
      chunking.BetweenCharacters := by
  refine ⟨exists_pieces_of_serviceAll loads, fun ⟨pieces, hpieces⟩ => ?_⟩
  have htext : pieces.flatten = text := by
    refine encodeUtf8_injective ?_
    rw [encodeUtf8_flatten, ← hpieces, chunking.flatten]
  rw [serviceAll_of_pieces loads hpieces, Framing.feed_eq '\n' (by simp), htext, List.nil_append]
  rfl

/-- The text of a sequence of messages, one on each line. -/
def messageLines (dumps : M → List Char) (messages : List M) : List Char :=
  messages.flatMap fun message => dumps message ++ ['\n']

/-- The messages are dispatched in their order, and no text is left. `dumps` writes a message on one
line, and `loads` reads it back. -/
theorem textEvents_messageLines {dumps : M → List Char}
    (hloads : ∀ message, loads (dumps message) = .object message)
    (hline : ∀ message, '\n' ∉ dumps message ∧ stripChars (dumps message) ≠ [])
    (messages : List M) :
    textEvents loads (messageLines dumps messages) = messages.map .dispatch ∧
      Framing.residue '\n' (messageLines dumps messages) = [] := by
  induction messages with
  | nil => exact ⟨rfl, rfl⟩
  | cons message messages ih =>
    have hcons : messageLines dumps (message :: messages) =
        dumps message ++ '\n' :: messageLines dumps messages := by
      simp [messageLines]
    have hevent : serviceLine loads (dumps message) = [.dispatch message] := by
      rw [serviceLine, if_neg (hline message).2, hloads]
    rw [hcons, textEvents, Framing.frames_append_cons (hline message).1,
      Framing.residue_append_cons (hline message).1, List.flatMap_cons, hevent]
    exact ⟨congrArg _ ih.1, ih.2⟩

/-! ### A cut inside a character -/

/-- A request with a character of two bytes. -/
def accentRequest : List Char := "\x7b\"a\":\"\u00e9\"\x7d\n".toList

/-- The request in one chunk. -/
def wholeRequest : Chunking accentRequest where
  chunks := [⟨[0x7B, 0x22, 0x61, 0x22, 0x3A, 0x22, 0xC3, 0xA9, 0x22, 0x7D, 0x0A], by decide,
    by decide⟩]
  flatten := by decide +kernel

/-- The request cut inside its character. -/
def cutRequest : Chunking accentRequest where
  chunks := [⟨[0x7B, 0x22, 0x61, 0x22, 0x3A, 0x22, 0xC3], by decide, by decide⟩,
    ⟨[0xA9, 0x22, 0x7D, 0x0A], by decide, by decide⟩]
  flatten := by decide +kernel

/-- The same bytes are dispatched in one chunk and raise `UnicodeDecodeError` in two. -/
theorem cutRequest_not_serviced :
    serviceAll (fun _ => LoadedLine.object ()) [] wholeRequest.chunks = .ok ([.dispatch ()], []) ∧
      serviceAll (fun _ => LoadedLine.object ()) [] cutRequest.chunks =
        .error .unicodeDecodeError :=
  ⟨by decide +kernel, by decide +kernel⟩

end MotionServer
