import PortGraph.Cache.Key
import PortGraph.Proofs.Json.Collation
import PortGraph.Proofs.Json.Printer
import Mathlib.Data.List.Basic

/-!
# Cache keys tell invocations apart

The bytes from which a key is made determine the type, the inputs and the configuration. The frame
is undone from the right: JSON texts hold no control character, so the last two zero bytes are
those of the frame, whatever the type is.

How the maps were put together leaves no trace in the bytes: they tell two invocations apart just
where the types differ or something is seen in one map that is not seen in the other.

## Main results

* `CacheKey.bytes_injective`: different invocations have different bytes
* `CacheKey.bytes_identify`: what the bytes tell apart, of maps and of ways to put them together
-/

namespace PortGraph.CacheKey

/-- A list is cut in two at the last place where a character stands. -/
theorem append_cons_inj_of_notMem {x : Char} {a b c d : List Char} (hb : x ∉ b) (hd : x ∉ d)
    (h : a ++ x :: b = c ++ x :: d) : a = c ∧ b = d := by
  have hcut {u v : List Char} (hv : x ∉ v) :
      ((u ++ x :: v).reverse.takeWhile (· != x) = v.reverse) ∧
        (u ++ x :: v).reverse.dropWhile (· != x) = x :: u.reverse := by
    rw [List.reverse_append, List.reverse_cons, List.append_assoc, List.singleton_append]
    refine Json.takeWhile_append_of_head? (fun y hy => ?_) fun y hy => ?_
    · simpa using fun he : y = x => hv (he ▸ List.mem_reverse.mp hy)
    · cases hy
      exact bne_self_eq_false x
  obtain ⟨hright, hleft⟩ := hcut (u := a) hb
  rw [h] at hright hleft
  obtain ⟨hright', hleft'⟩ := hcut (u := c) hd
  rw [hleft'] at hleft
  rw [hright'] at hright
  refine ⟨List.reverse_injective ?_, List.reverse_injective hright.symm⟩
  exact (List.cons.inj hleft).2.symm

theorem frame_notMem_chars (a : Json) : frame ∉ a.chars := fun h =>
  absurd (Json.le_toNat_of_mem_chars a h) (by decide)

theorem ofFields_injective {s t : Fields} (h : (Json.ofFields s).chars = (Json.ofFields t).chars) :
    s = t := by
  have := Json.chars_injective h
  simp only [Json.ofFields, Json.obj.injEq] at this
  exact Table.ext this

/-- Different invocations have different texts. -/
theorem text_injective {type type' : String} {inputs inputs' config config' : Fields}
    (h : text type inputs config = text type' inputs' config') :
    type = type' ∧ inputs = inputs' ∧ config = config' := by
  obtain ⟨hfront, hconfig⟩ :=
    append_cons_inj_of_notMem (frame_notMem_chars _) (frame_notMem_chars _) h
  obtain ⟨htype, hinputs⟩ := append_cons_inj_of_notMem (frame_notMem_chars _) (frame_notMem_chars _)
    hfront
  exact ⟨String.toList_injective htype, ofFields_injective hinputs, ofFields_injective hconfig⟩

/-- **Different invocations have different bytes.** -/
theorem bytes_injective {type type' : String} {inputs inputs' config config' : Fields}
    (h : bytes type inputs config = bytes type' inputs' config') :
    type = type' ∧ inputs = inputs' ∧ config = config' := by
  refine text_injective (String.ofList_injective (String.toByteArray_inj.mp ?_))
  exact ByteArray.ext (Array.toList_inj.mp h)

/-! ### Invocations and their bytes -/

theorem bytes_inj {type type' : String} {inputs inputs' config config' : Fields} :
    bytes type inputs config = bytes type' inputs' config' ↔
      type = type' ∧ inputs = inputs' ∧ config = config' := by
  refine ⟨bytes_injective, ?_⟩
  rintro ⟨rfl, rfl, rfl⟩
  rfl

/-- **The bytes identify an invocation.** Two invocations have the same bytes exactly when type,
inputs and configuration are the same. Put the members of the maps in one after another, at every
depth and in any order: the bytes are the same exactly when the types are and the maps look the
same along every path, where a whole number and a fractional one look different, and so do the two
fractional zeros. -/
theorem bytes_identify :
    (∀ (type type' : String) (inputs inputs' config config' : Fields),
      bytes type inputs config = bytes type' inputs' config' ↔
        type = type' ∧ inputs = inputs' ∧ config = config') ∧
    ∀ (type type' : String) (inputs inputs' config config' : List (String × Json)),
      bytes type (Json.tableOf inputs) (Json.tableOf config) =
          bytes type' (Json.tableOf inputs') (Json.tableOf config') ↔
        type = type' ∧ Json.Alike (.obj inputs) (.obj inputs') ∧
          Json.Alike (.obj config) (.obj config') := by
  refine ⟨fun _ _ _ _ _ _ => bytes_inj, fun type type' inputs inputs' config config' => ?_⟩
  rw [bytes_inj, Json.tableOf_eq_iff, Json.tableOf_eq_iff]

end PortGraph.CacheKey
