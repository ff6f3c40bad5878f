import Weave.Text.Lines
import Weave.Text.Utf8

namespace Weave

/-! A writer puts out one line after the other, each with a newline behind it, and counts
the bytes as they go. `reversed` is what it has put out, newest line first. -/

structure Writer where
  reversed : List Bytes := []
  size : Nat := 0
  deriving DecidableEq, Repr

namespace Writer

def content (writer : Writer) : Bytes :=
  writer.reversed.reverse.flatten

def put (writer : Writer) (line : Line) : Writer :=
  let bytes := Utf8.encode (line ++ ['\n'])
  ⟨bytes :: writer.reversed, writer.size + bytes.length⟩

def putAll (writer : Writer) (lines : List Line) : Writer :=
  lines.foldl put writer

def ofLines (lines : List Line) : Writer :=
  putAll {} lines

theorem content_put (writer : Writer) (line : Line) :
    (writer.put line).content = writer.content ++ Utf8.encode (line ++ ['\n']) := by
  simp [put, content]

theorem size_put {writer : Writer} (hsize : writer.size = writer.content.length)
    (line : Line) : (writer.put line).size = (writer.put line).content.length := by
  rw [content_put, List.length_append, ← hsize]
  rfl

theorem content_putAll (writer : Writer) (lines : List Line) :
    (writer.putAll lines).content =
      writer.content ++ Utf8.encode (Lines.toText lines) := by
  induction lines generalizing writer with
  | nil => exact (List.append_nil writer.content).symm
  | cons line lines ih =>
      rw [putAll, List.foldl_cons, ← putAll, ih, content_put, List.append_assoc,
        ← Utf8.encode_append]
      simp

theorem size_putAll {writer : Writer} (hsize : writer.size = writer.content.length)
    (lines : List Line) :
    (writer.putAll lines).size = (writer.putAll lines).content.length := by
  induction lines generalizing writer with
  | nil => exact hsize
  | cons line lines ih => exact ih (size_put hsize line)

@[simp] theorem content_ofLines (lines : List Line) :
    (ofLines lines).content = Utf8.encode (Lines.toText lines) :=
  content_putAll {} lines

@[simp] theorem size_ofLines (lines : List Line) :
    (ofLines lines).size = (Utf8.encode (Lines.toText lines)).length := by
  rw [ofLines, size_putAll rfl, ← ofLines, content_ofLines]

end Writer

end Weave
