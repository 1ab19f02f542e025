import ClaudeCodeProxy.Text.Strings
import Mathlib.Data.List.Basic

-- Server-sent events on the wire, and a reader that gets the bytes in chunks of any size.

namespace EventStream

def LF : UInt8 := 10

def CR : UInt8 := 13

section Blocks

-- The lines of the block that the reader is in, and the bytes of the line that it is in.
structure Reader where
  lines : List (List UInt8) := []
  line : List UInt8 := []
  afterCR : Bool := false
  deriving DecidableEq

-- An empty line ends the block.
def Reader.endLine (reader : Reader) (afterCR : Bool) : Reader × List (List (List UInt8)) :=
  if reader.line = [] then ({ afterCR := afterCR }, [reader.lines])
  else ({ lines := reader.lines ++ [reader.line], afterCR := afterCR }, [])

-- A line ends with CR, LF, or the two together.
def Reader.step (reader : Reader) (byte : UInt8) : Reader × List (List (List UInt8)) :=
  if byte = CR then reader.endLine true
  else if byte = LF then
    if reader.afterCR then ({ reader with afterCR := false }, []) else reader.endLine false
  else ({ reader with line := reader.line ++ [byte], afterCR := false }, [])

def Reader.feed (reader : Reader) : List UInt8 → Reader × List (List (List UInt8))
  | [] => (reader, [])
  | byte :: bytes =>
      let (next, ended) := reader.step byte
      let (final, rest) := next.feed bytes
      (final, ended ++ rest)

def Reader.feedChunks (reader : Reader) : List (List UInt8) → Reader × List (List (List UInt8))
  | [] => (reader, [])
  | chunk :: chunks =>
      let (next, ended) := reader.feed chunk
      let (final, rest) := next.feedChunks chunks
      (final, ended ++ rest)

theorem Reader.feed_append (reader : Reader) (first second : List UInt8) :
    reader.feed (first ++ second) =
      (((reader.feed first).1.feed second).1,
        (reader.feed first).2 ++ ((reader.feed first).1.feed second).2) := by
  induction first generalizing reader with
  | nil => rfl
  | cons byte first ih => simp [feed, ih]

-- The reader carries over a cut whatever it needs.
theorem Reader.feedChunks_eq (reader : Reader) (chunks : List (List UInt8)) :
    reader.feedChunks chunks = reader.feed chunks.flatten := by
  induction chunks generalizing reader with
  | nil => rfl
  | cons chunk chunks ih =>
      simp only [List.flatten_cons, feed_append, feedChunks, ih]

def Unbroken (line : List UInt8) : Prop := CR ∉ line ∧ LF ∉ line

-- The bytes of a line gather in the reader.
theorem Reader.feed_unbroken {line : List UInt8} (h : Unbroken line) (lines : List (List UInt8))
    (before : List UInt8) :
    ({ lines := lines, line := before } : Reader).feed line =
      ({ lines := lines, line := before ++ line }, []) := by
  induction line generalizing before with
  | nil => rw [List.append_nil]; rfl
  | cons byte line ih =>
      have hcr : byte ≠ CR := fun heq => h.1 (heq ▸ .head _)
      have hlf : byte ≠ LF := fun heq => h.2 (heq ▸ .head _)
      have hline : Unbroken line := ⟨fun hm => h.1 (.tail _ hm), fun hm => h.2 (.tail _ hm)⟩
      have hstep : ({ lines := lines, line := before } : Reader).step byte =
          ({ lines := lines, line := before ++ [byte] }, []) := by
        rw [step, if_neg hcr, if_neg hlf]
      simp only [feed, hstep, ih hline, List.append_assoc, List.singleton_append, List.append_nil]

theorem Reader.feed_line {line : List UInt8} (h : Unbroken line) (hne : line ≠ [])
    (lines : List (List UInt8)) :
    ({ lines := lines } : Reader).feed (line ++ [LF]) = ({ lines := lines ++ [line] }, []) := by
  rw [feed_append, feed_unbroken h]
  simp [feed, step, endLine, hne, LF, CR]

-- The bytes of a block: its lines and an empty one.
def blockBytes (lines : List (List UInt8)) : List UInt8 :=
  lines.flatMap (· ++ [LF]) ++ [LF]

theorem Reader.feed_block {lines : List (List UInt8)}
    (h : ∀ line ∈ lines, Unbroken line ∧ line ≠ []) (before : List (List UInt8)) :
    ({ lines := before } : Reader).feed (blockBytes lines) = ({}, [before ++ lines]) := by
  induction lines generalizing before with
  | nil =>
      rw [List.append_nil]
      rfl
  | cons line lines ih =>
      obtain ⟨hline, hne⟩ := h line (.head _)
      have hbytes : blockBytes (line :: lines) = (line ++ [LF]) ++ blockBytes lines := by
        simp [blockBytes]
      rw [hbytes, feed_append, feed_line hline hne, ih fun other hm => h other (.tail _ hm)]
      simp

-- Blocks do not run into each other, and none is split.
theorem Reader.feed_blocks {blocks : List (List (List UInt8))}
    (h : ∀ lines ∈ blocks, ∀ line ∈ lines, Unbroken line ∧ line ≠ []) :
    ({} : Reader).feed (blocks.flatMap blockBytes) = ({}, blocks) := by
  induction blocks with
  | nil => rfl
  | cons lines blocks ih =>
      rw [List.flatMap_cons, feed_append, feed_block (h lines (.head _)) [],
        ih fun other hm => h other (.tail _ hm)]
      rfl

end Blocks

section Encoding

def utf8 (text : String) : List UInt8 := text.toUTF8.data.toList

theorem utf8_append (first second : String) :
    utf8 (first ++ second) = utf8 first ++ utf8 second := by
  simp [utf8]

theorem utf8_eq (text : String) : utf8 text = text.toList.flatMap String.utf8EncodeChar := by
  rw [utf8, String.toUTF8_eq_toByteArray, ← String.utf8Encode_toList, List.utf8Encode,
    List.data_toByteArray]

-- A byte of the lower half stands for itself only.
theorem eq_of_mem_utf8EncodeChar {byte : UInt8} {c : Char} (h : byte ∈ String.utf8EncodeChar c)
    (hlow : byte.toNat < 128) : byte.toNat = c.toNat := by
  simp only [String.utf8EncodeChar] at h
  split_ifs at h
  · obtain rfl := List.mem_singleton.mp h
    change c.val.toNat % 256 = c.val.toNat
    omega
  all_goals simp only [List.mem_cons, List.not_mem_nil, or_false] at h
  · rcases h with rfl | rfl <;> (rw [UInt8.toNat_ofNat'] at hlow; omega)
  · rcases h with rfl | rfl | rfl <;> (rw [UInt8.toNat_ofNat'] at hlow; omega)
  · rcases h with rfl | rfl | rfl | rfl <;> (rw [UInt8.toNat_ofNat'] at hlow; omega)

def decode (bytes : List UInt8) : Option String := String.fromUTF8? ⟨bytes.toArray⟩

theorem decode_utf8 (text : String) : decode (utf8 text) = some text := by
  have hbytes : (⟨(utf8 text).toArray⟩ : ByteArray) = text.toByteArray := rfl
  rw [decode, hbytes, String.fromUTF8?, dif_pos text.isValidUTF8]
  rfl

-- No line break, in any of the three spellings.
def OneLine (text : String) : Prop := '\r' ∉ text.toList ∧ '\n' ∉ text.toList

theorem not_mem_utf8 {byte : UInt8} {c : Char} {text : String} (hlow : byte.toNat < 128)
    (hsame : byte.toNat = c.toNat) (h : c ∉ text.toList) : byte ∉ utf8 text := by
  intro hm
  rw [utf8_eq, List.mem_flatMap] at hm
  obtain ⟨other, hother, hbyte⟩ := hm
  have heq : c.toNat = other.toNat := hsame.symm.trans (eq_of_mem_utf8EncodeChar hbyte hlow)
  exact h (Char.toNat_inj.mp heq ▸ hother)

theorem OneLine.unbroken {text : String} (h : OneLine text) : Unbroken (utf8 text) :=
  ⟨not_mem_utf8 (by decide) (by decide) h.1, not_mem_utf8 (by decide) (by decide) h.2⟩

theorem OneLine.append {first second : String} (hfirst : OneLine first) (hsecond : OneLine second) :
    OneLine (first ++ second) := by
  simp only [OneLine, String.toList_append, List.mem_append, not_or]
  exact ⟨⟨hfirst.1, hsecond.1⟩, hfirst.2, hsecond.2⟩

end Encoding

section Events

structure Event where
  name : String
  data : String
  deriving DecidableEq

-- What stands in a line behind the name of the field.
def readField (label : String) (line : List UInt8) : Option String := do
  let text ← decode line
  if Text.startsWith text label then some (Text.removePrefix text label) else none

-- One line with the event and one with the data.
def readEvent : List (List UInt8) → Option Event
  | [eventLine, dataLine] => do
      return ⟨← readField "event: " eventLine, ← readField "data: " dataLine⟩
  | _ => none

-- The events in the chunks, if there is nothing else in them.
def readEvents (chunks : List (List UInt8)) : Option (List Event) :=
  let (reader, blocks) := ({} : Reader).feedChunks chunks
  if reader = {} then blocks.mapM readEvent else none

def Event.lines (event : Event) : List (List UInt8) :=
  [utf8 ("event: " ++ event.name), utf8 ("data: " ++ event.data)]

def Event.text (event : Event) : String :=
  "event: " ++ event.name ++ "\ndata: " ++ event.data ++ "\n\n"

theorem Event.utf8_text (event : Event) : utf8 event.text = blockBytes event.lines := by
  have hend : utf8 "\n\n" = [LF] ++ [LF] := by decide
  have hbreak : utf8 "\ndata: " = [LF] ++ utf8 "data: " := by decide
  simp [text, lines, blockBytes, utf8_append, hend, hbreak]

theorem readField_append (label rest : String) :
    readField label (utf8 (label ++ rest)) = some rest := by
  have hstart : Text.startsWith (label ++ rest) label = true := by
    simp [Text.startsWith, String.toList_append]
  simp [readField, decode_utf8, hstart, Text.removePrefix_append]

theorem readEvent_lines (event : Event) : readEvent event.lines = some event := by
  simp [readEvent, Event.lines, readField_append]

-- A name or data of more than one line would end its line early.
structure Event.Sendable (event : Event) : Prop where
  name : OneLine event.name
  data : OneLine event.data

theorem Event.Sendable.lines {event : Event} (h : event.Sendable) :
    ∀ line ∈ event.lines, Unbroken line ∧ line ≠ [] := by
  have hname : OneLine "event: " := ⟨by decide, by decide⟩
  have hdata : OneLine "data: " := ⟨by decide, by decide⟩
  intro line hm
  simp only [Event.lines, List.mem_cons, List.not_mem_nil, or_false] at hm
  rcases hm with rfl | rfl
  · refine ⟨(hname.append h.name).unbroken, ?_⟩
    rw [utf8_append]
    exact List.append_ne_nil_of_left_ne_nil (by decide) _
  · refine ⟨(hdata.append h.data).unbroken, ?_⟩
    rw [utf8_append]
    exact List.append_ne_nil_of_left_ne_nil (by decide) _

-- What is written item by item is read item by item.
theorem mapM_written {α β : Type} {write : α → β} {read : β → Option α} {items : List α}
    (h : ∀ item ∈ items, read (write item) = some item) :
    (items.map write).mapM read = some items := by
  induction items with
  | nil => rfl
  | cons item items ih =>
      simp [h item (.head _), ih fun other hm => h other (.tail _ hm)]

-- However the bytes are cut, the reader gets the events that have been sent.
theorem readEvents_text {events : List Event} (h : ∀ event ∈ events, event.Sendable)
    {chunks : List (List UInt8)}
    (hchunks : chunks.flatten = events.flatMap fun event => utf8 event.text) :
    readEvents chunks = some events := by
  have hbytes : (events.flatMap fun event => utf8 event.text) =
      (events.map Event.lines).flatMap blockBytes := by
    rw [List.flatMap_map]
    exact congrArg (events.flatMap ·) (funext Event.utf8_text)
  have hblocks : ∀ lines ∈ events.map Event.lines, ∀ line ∈ lines, Unbroken line ∧ line ≠ [] := by
    intro lines hm
    obtain ⟨event, hevent, rfl⟩ := List.mem_map.mp hm
    exact (h event hevent).lines
  rw [readEvents, Reader.feedChunks_eq, hchunks, hbytes, Reader.feed_blocks hblocks]
  exact mapM_written fun event _ => readEvent_lines event

end Events

end EventStream
