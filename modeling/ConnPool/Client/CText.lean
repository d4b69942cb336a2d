/-
  ConnPool.Client.CText

  Text as a C library takes and returns it: a buffer of bytes that is read up
  to its first zero byte, and an array of pointers that is read up to its
  first null pointer.

  Only text without zero bytes can be handed over whole; `cText?` refuses
  the rest.  `readText_of_cText?` and `readTexts_terminated` say that the
  library reads back what was handed over.
-/

namespace ConnPool
namespace Client

/-- Memory that holds a text: it is read up to its first zero byte. -/
abbrev CText := List UInt8

/-- The bytes of a text in UTF-8. -/
def utf8Bytes (text : String) : List UInt8 :=
  text.toUTF8.data.toList

/-- Whether a zero byte occurs in a text, so that it cannot be handed over. -/
def hasNul (text : String) : Bool :=
  (utf8Bytes text).contains 0

/-- A text as C takes it, unless it holds a zero byte. -/
def cText? (text : String) : Option CText :=
  if hasNul text then none else some (utf8Bytes text ++ [0])

/-- The bytes that C reads from memory. -/
def readText (memory : CText) : List UInt8 :=
  memory.takeWhile (· ≠ 0)

/-- An array of pointers to texts, closed by a null pointer. -/
def terminated (texts : List CText) : List (Option CText) :=
  texts.map some ++ [none]

/-- The texts that C reads from an array of pointers. -/
def readTexts : List (Option CText) → List (List UInt8)
  | some text :: rest => readText text :: readTexts rest
  | none :: _ | [] => []

/-- C reads back the bytes of the text that was handed over. -/
theorem readText_of_cText? {text : String} {memory : CText} (h : cText? text = some memory) :
    readText memory = utf8Bytes text := by
  unfold cText? at h
  split at h
  · contradiction
  · rename_i hnul
    obtain rfl := Option.some.inj h
    have hne : ∀ b ∈ utf8Bytes text, decide (b ≠ 0) = true := by
      intro b hb
      have : b ≠ 0 := by
        rintro rfl
        exact hnul (by simpa [hasNul] using hb)
      simpa using this
    rw [readText, List.takeWhile_append_of_pos hne]
    simp

/-- C reads every text of a closed array, and nothing after it. -/
theorem readTexts_terminated (texts : List CText) :
    readTexts (terminated texts) = texts.map readText := by
  induction texts with
  | nil => rfl
  | cons text rest ih => simpa [terminated, readTexts] using ih

end Client
end ConnPool
