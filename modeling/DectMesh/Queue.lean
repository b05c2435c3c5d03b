import DectMesh.Library.ClassQueues
import DectMesh.Protocol

/-!
# The message queues

`queue.c`: for each direction one queue of each priority.  What is taken out is
the oldest item of the highest priority; what does not fit is dropped.
-/

namespace DectMesh

open ClassQueues

def queueDataMax : Nat := 200
def queueDepth : Nat := 50
def maxRxQueueProcessPerCycle : Nat := 8

/-- `struct rx_data_item`. -/
structure RxDataItem where
  senderId : UInt16
  rssi2 : Int16
  dataLen : Nat
  data : Buffer queueDataMax
  deriving DecidableEq

/-- `struct tx_data_item`. -/
structure TxDataItem where
  dataLen : Nat
  data : Buffer queueDataMax
  deriving DecidableEq

abbrev RxQueues := Logged 3 RxDataItem queueDepth
abbrev TxQueues := Logged 3 TxDataItem queueDepth

theorem high_lt : 0 < 3 := by decide

/-- `QUEUE_PRIO_HIGH`. -/
def queuePrioHigh : Fin 3 := ⟨0, high_lt⟩

/-- `enum queue_priority`; what is behind `QUEUE_PRIO_LOW` counts as low. -/
def queuePriority (prio : UInt8) : Fin 3 :=
  if inside : prio.toNat < 3 then ⟨prio.toNat, inside⟩ else 2

/-- `rx_queue_put`. -/
def rxQueuePut (queues : RxQueues) (item : RxDataItem) (prio : UInt8) :
    RxQueues :=
  queues.put (queuePriority prio) item

/-- `rx_queue_get` with `K_NO_WAIT`. -/
def rxQueueGet (queues : RxQueues) : Option (RxDataItem × RxQueues) :=
  queues.get

/-- The item of `tx_queue_put`: what is too long is cut off. -/
def TxDataItem.ofData (data : List UInt8) : TxDataItem where
  dataLen := min data.length queueDataMax
  data := .ofData queueDataMax data

/-- `tx_queue_put`. -/
def txQueuePut (queues : TxQueues) (data : List UInt8) (prio : UInt8) :
    TxQueues :=
  queues.put (queuePriority prio) (.ofData data)

/-- `tx_queue_get` with `K_NO_WAIT`. -/
def txQueueGet (queues : TxQueues) : Option (TxDataItem × TxQueues) :=
  queues.get

/-- The bytes of an item that are transmitted. -/
def TxDataItem.frame (item : TxDataItem) : List UInt8 :=
  item.data.bytes.take item.dataLen

/-- What fits into an item is transmitted as it was enqueued. -/
theorem TxDataItem.ofData_frame {data : List UInt8}
    (fits : data.length ≤ queueDataMax) : (ofData data).frame = data := by
  unfold ofData frame
  dsimp only
  rw [Nat.min_eq_left fits]
  exact Buffer.take_ofData fits

end DectMesh
