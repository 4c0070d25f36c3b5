/-
GroBro/Framing.lean

Sequences of self-delimiting frames.  A `Format` is an encoder of single
frames together with a decoder that reads one frame off the front of a buffer;
`scan` reads frames until the decoder gives up and returns what is left.

    scan (encodeAll as ++ r) = (as, r)      whenever r does not start a frame

`scan_append` is completeness, `scan_sound` is soundness (nothing skipped,
nothing invented), and `split_unique` says that a buffer has only one reading
as frames followed by something that starts no frame.  A loop over untrusted
lengths is verified by exhibiting it as a `scan`; no induction over the buffer
is needed at the use site.
-/
import Mathlib

namespace Framing

variable {α β : Type*}

/-- A self-delimiting frame format: decoding is exact on encodings, whatever
follows them, and every decoded frame accounts for the bytes it was read from. -/
structure Format (α β : Type*) where
  Valid : α → Prop
  encode : α → List β
  decode : List β → Option α
  decode_append : ∀ {a}, Valid a → ∀ r, decode (encode a ++ r) = some a
  decode_sound : ∀ {w a}, decode w = some a → Valid a ∧ ∃ r, w = encode a ++ r
  encode_ne_nil : ∀ {a}, Valid a → encode a ≠ []

namespace Format

variable (F : Format α β)

/-- The frames one after the other. -/
def encodeAll (as : List α) : List β := as.flatMap F.encode

@[simp] theorem encodeAll_nil : F.encodeAll [] = [] := rfl

@[simp] theorem encodeAll_cons (a : α) (as : List α) :
    F.encodeAll (a :: as) = F.encode a ++ F.encodeAll as := rfl

theorem encodeAll_append (as bs : List α) :
    F.encodeAll (as ++ bs) = F.encodeAll as ++ F.encodeAll bs := List.flatMap_append

theorem encode_length_pos {a : α} (h : F.Valid a) : 0 < (F.encode a).length :=
  List.length_pos_of_ne_nil (F.encode_ne_nil h)

theorem drop_decode_lt {w : List β} {a : α} (h : F.decode w = some a) :
    (w.drop (F.encode a).length).length < w.length := by
  obtain ⟨hv, r, rfl⟩ := F.decode_sound h
  have hpos := F.encode_length_pos hv
  simp only [List.drop_left, List.length_append]
  omega

/-- Read frames off the front until the decoder gives up. -/
def scan (w : List β) : List α × List β :=
  match _h : F.decode w with
  | none => ([], w)
  | some a =>
      let p := scan (w.drop (F.encode a).length)
      (a :: p.1, p.2)
termination_by w.length
decreasing_by exact F.drop_decode_lt _h

theorem scan_of_none {w : List β} (h : F.decode w = none) : F.scan w = ([], w) := by
  rw [scan]
  split
  · rfl
  · rename_i a ha
    rw [h] at ha
    cases ha

theorem scan_of_some {w : List β} {a : α} (h : F.decode w = some a) :
    F.scan w = (a :: (F.scan (w.drop (F.encode a).length)).1,
      (F.scan (w.drop (F.encode a).length)).2) := by
  rw [scan]
  split
  · rename_i hn
    rw [h] at hn
    cases hn
  · rename_i a' ha'
    rw [h] at ha'
    cases ha'
    rfl

theorem scan_encode {a : α} (ha : F.Valid a) (r : List β) :
    F.scan (F.encode a ++ r) = (a :: (F.scan r).1, (F.scan r).2) := by
  rw [F.scan_of_some (F.decode_append ha r), List.drop_left]

/-- **Completeness**: valid frames followed by something that starts no frame
are read back exactly. -/
theorem scan_append {as : List α} (hv : ∀ a ∈ as, F.Valid a) {r : List β}
    (hr : F.decode r = none) : F.scan (F.encodeAll as ++ r) = (as, r) := by
  induction as with
  | nil => exact F.scan_of_none hr
  | cons a as ih =>
      have ha := hv a List.mem_cons_self
      have has := ih fun a' h' => hv a' (List.mem_cons_of_mem _ h')
      rw [encodeAll_cons, List.append_assoc, F.scan_encode ha, has]

/-- **Soundness**: the frames are valid, together with the rest they are the
buffer, and the rest starts no frame. -/
theorem scan_sound (w : List β) :
    (∀ a ∈ (F.scan w).1, F.Valid a) ∧ F.encodeAll (F.scan w).1 ++ (F.scan w).2 = w ∧
      F.decode (F.scan w).2 = none := by
  induction w using scan.induct F with
  | case1 w h =>
      rw [F.scan_of_none h]
      exact ⟨by simp, rfl, h⟩
  | case2 w a h ih =>
      obtain ⟨hv, r, rfl⟩ := F.decode_sound h
      rw [List.drop_left] at ih
      rw [F.scan_encode hv]
      obtain ⟨hvs, hsplit, hrest⟩ := ih
      refine ⟨?_, ?_, hrest⟩
      · intro a' ha'
        rcases List.mem_cons.mp ha' with rfl | h'
        · exact hv
        · exact hvs a' h'
      · rw [encodeAll_cons, List.append_assoc, hsplit]

/-- The result of a scan, characterised without the loop. -/
theorem scan_eq_iff {w r : List β} {as : List α} :
    F.scan w = (as, r) ↔
      (∀ a ∈ as, F.Valid a) ∧ F.encodeAll as ++ r = w ∧ F.decode r = none := by
  constructor
  · intro h
    have hs := F.scan_sound w
    rw [h] at hs
    exact hs
  · rintro ⟨hv, rfl, hr⟩
    exact F.scan_append hv hr

/-- **Unique reading**: frames followed by something that starts no frame can
be split in one way only. -/
theorem split_unique {as as' : List α} {r r' : List β}
    (hv : ∀ a ∈ as, F.Valid a) (hr : F.decode r = none)
    (hv' : ∀ a ∈ as', F.Valid a) (hr' : F.decode r' = none)
    (h : F.encodeAll as ++ r = F.encodeAll as' ++ r') : as = as' ∧ r = r' := by
  have e := F.scan_append hv hr
  rw [h, F.scan_append hv' hr'] at e
  exact ⟨(congrArg Prod.fst e).symm, (congrArg Prod.snd e).symm⟩

end Format

end Framing
