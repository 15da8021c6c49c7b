import Mathlib.Data.Nat.Notation
import Mathlib.Logic.Function.Basic
import NssDrv.HlosInterface

set_option autoImplicit false

/-!
# The tables that are indexed by interface

The handlers of received messages and the slots of the data plane. Pointers and
functions are numbers, and `NULL` is 0.
-/
namespace NssDrv.InterfaceTables
open HlosInterface

/-- `nss_rx_interface_handlers[]`. -/
structure RxHandler where
  cb : ℕ
  appData : ℕ
  deriving DecidableEq

/-- `nss_subsystem_dataplane_register`. -/
structure DpRegister where
  ndev : ℕ
  cb : ℕ
  appData : ℕ
  features : ℕ
  deriving DecidableEq

abbrev RxHandlers := ℕ → RxHandler

def nssCoreRegisterHandler (interface cb appData : ℕ) (handlers : RxHandlers) :
    CoreStatus × RxHandlers :=
  if interface ≥ NSS_MAX_NET_INTERFACES then (.failure, handlers)
  else if (handlers interface).cb ≠ 0 then (.failure, handlers)
  else (.success, Function.update handlers interface ⟨cb, appData⟩)

def nssCoreUnregisterHandler (interface : ℕ) (handlers : RxHandlers) : CoreStatus × RxHandlers :=
  if interface ≥ NSS_MAX_NET_INTERFACES then (.failure, handlers)
  else (.success, Function.update handlers interface ⟨0, 0⟩)

variable {interface cb appData : ℕ} {handlers : RxHandlers}

theorem registerHandler_success
    (h : (nssCoreRegisterHandler interface cb appData handlers).1 = .success) :
    (handlers interface).cb = 0 ∧ (nssCoreRegisterHandler interface cb appData handlers).2 =
      Function.update handlers interface ⟨cb, appData⟩ := by
  unfold nssCoreRegisterHandler at h ⊢
  split at h
  · cases h
  · rename_i hrange
    split at h
    · cases h
    · rename_i hcb
      rw [if_neg hrange, if_neg hcb]
      exact ⟨not_not.mp hcb, rfl⟩

theorem registerHandler_failure
    (h : (nssCoreRegisterHandler interface cb appData handlers).1 ≠ .success) :
    (nssCoreRegisterHandler interface cb appData handlers).2 = handlers := by
  unfold nssCoreRegisterHandler at h ⊢
  split
  · rfl
  · rename_i hrange
    rw [if_neg hrange] at h
    split
    · rfl
    · rename_i hcb
      rw [if_neg hcb] at h
      exact absurd rfl h

theorem registerHandler_other {n : ℕ} (hn : n ≠ interface) :
    (nssCoreRegisterHandler interface cb appData handlers).2 n = handlers n := by
  unfold nssCoreRegisterHandler
  split
  · rfl
  · split
    · rfl
    · exact Function.update_of_ne hn _ _

theorem unregisterHandler_other {n : ℕ} (hn : n ≠ interface) :
    (nssCoreUnregisterHandler interface handlers).2 n = handlers n := by
  unfold nssCoreUnregisterHandler
  split
  · rfl
  · exact Function.update_of_ne hn _ _

theorem unregisterHandler_self (h : interface < NSS_MAX_NET_INTERFACES) :
    (nssCoreUnregisterHandler interface handlers).2 interface = ⟨0, 0⟩ := by
  unfold nssCoreUnregisterHandler
  rw [if_neg (Nat.not_le.mpr h)]
  exact Function.update_self _ _ _

end NssDrv.InterfaceTables
