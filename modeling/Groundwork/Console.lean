import Groundwork.IoFault
import Groundwork.Text.Blank
import Groundwork.Text.Utf8

/-!
# A console

The bytes a user will type and the bytes shown to the user.  A console may have room for only so
many bytes of output.  `Question.ask` puts a question until an answer is understood.
-/

namespace Groundwork

/-- Both directions of a conversation. -/
structure Console where
  /-- What the user types, as far as it has not been read. -/
  unread : List UInt8 := []
  /-- What the user has been shown. -/
  written : List UInt8 := []
  /-- How many more bytes can be shown; `none` if there is no end to it. -/
  room : Option Nat := none
  deriving DecidableEq, Inhabited

namespace Console

/-- Shows a text.  Where the room ends within it, the bytes that fit are shown. -/
def write (c : Console) (s : String) : Except IoFault Unit × Console :=
  let bytes := Text.utf8Bytes s
  match c.room with
  | none => (.ok (), { c with written := c.written ++ bytes })
  | some n =>
    if bytes.length ≤ n then
      (.ok (), { c with written := c.written ++ bytes, room := some (n - bytes.length) })
    else (.error .full, { c with written := c.written ++ bytes.take n, room := some 0 })

/-- The bytes of the first line with its newline, and the bytes after it. -/
def cutLine : List UInt8 → List UInt8 × List UInt8
  | [] => ([], [])
  | b :: rest =>
    if b = 10 then ([b], rest)
    else
      let (line, left) := cutLine rest
      (b :: line, left)

/-- Takes the next line; `none` at the end of the input.  A line that is no text is taken too. -/
def readLine (c : Console) : Except IoFault (Option String) × Console :=
  let c' := { c with unread := (cutLine c.unread).2 }
  match (cutLine c.unread).1 with
  | [] => (.ok none, c')
  | b :: line =>
    match Text.decode? (b :: line) with
    | some s => (.ok (some s), c')
    | none => (.error .notText, c')

theorem length_cutLine (bytes : List UInt8) :
    (cutLine bytes).1.length + (cutLine bytes).2.length = bytes.length := by
  induction bytes with
  | nil => rfl
  | cons b rest ih =>
    simp only [cutLine]
    split
    · simp; omega
    · simp; omega

theorem unread_readLine_lt {c c' : Console} {s : String} (h : c.readLine = (.ok (some s), c')) :
    c'.unread.length < c.unread.length := by
  have hlen := length_cutLine c.unread
  simp only [readLine] at h
  split at h
  · simp at h
  · rename_i b line hline
    rw [hline, List.length_cons] at hlen
    split at h
    · simp only [Prod.mk.injEq] at h
      rw [← h.2]
      simp only
      omega
    · simp at h

theorem unread_write (c : Console) (s : String) : (c.write s).2.unread = c.unread := by
  unfold write
  cases c.room with
  | none => rfl
  | some n => simp only; split <;> rfl

end Console

/-! ### Questions -/

/-- A question that is put again until the answer is understood. -/
structure Question (α : Type) where
  /-- The text shown before each answer. -/
  prompt : String
  /-- What the end of the input means. -/
  atEnd : Except IoFault α
  /-- What a blank answer means. -/
  onBlank : α
  /-- What any other answer means, without the blanks around it. -/
  understand : String → Option α
  /-- The line shown after an answer that is not understood. -/
  complaint : String

namespace Question

/-- Puts the question until an answer is understood, the input ends or the console fails. -/
def ask {α : Type} (q : Question α) (c : Console) : Except IoFault α × Console :=
  match _hw : c.write q.prompt with
  | (.error e, c₁) => (.error e, c₁)
  | (.ok _, c₁) =>
    match _hr : c₁.readLine with
    | (.error e, c₂) => (.error e, c₂)
    | (.ok none, c₂) => (q.atEnd, c₂)
    | (.ok (some line), c₂) =>
      let answer := Text.trim line
      if answer.isEmpty then (.ok q.onBlank, c₂)
      else match q.understand answer with
        | some a => (.ok a, c₂)
        | none =>
          match _hc : c₂.write (q.complaint ++ "\n") with
          | (.error e, c₃) => (.error e, c₃)
          | (.ok _, c₃) => ask q c₃
termination_by c.unread.length
decreasing_by
  have h₁ := Console.unread_write c q.prompt
  have h₂ := Console.unread_readLine_lt _hr
  have h₃ := Console.unread_write c₂ (q.complaint ++ "\n")
  rw [_hw] at h₁
  rw [_hc] at h₃
  simp only at h₁ h₃
  rw [h₃, ← h₁]
  exact h₂

end Question

end Groundwork
