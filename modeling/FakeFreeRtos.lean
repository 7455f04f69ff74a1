import FakeFreeRtos.Model.Calls
import FakeFreeRtos.Queue.Effects
import FakeFreeRtos.Queue.Budget
import FakeFreeRtos.Queue.Evolution
import FakeFreeRtos.Queue.Lifecycle
import FakeFreeRtos.Queue.Reachable
import FakeFreeRtos.Queue.Receive
import FakeFreeRtos.Queue.Refinement
import FakeFreeRtos.Clock.Agreement
import FakeFreeRtos.Clock.DelayUntil
import FakeFreeRtos.Foundations.Paths
import FakeFreeRtos.Harness.Isolation
import FakeFreeRtos.Queue.Atomic
import FakeFreeRtos.Queue.Sizes
import FakeFreeRtos.Sets.Balance
import FakeFreeRtos.Sets.Notification
import FakeFreeRtos.Sets.Overwrite
import FakeFreeRtos.Foundations.Detour
import FakeFreeRtos.Lock.Requests
import FakeFreeRtos.Lock.Teardown
import FakeFreeRtos.Queue.Frame
import FakeFreeRtos.Queue.Mailbox
import FakeFreeRtos.Semaphore.Counting
import FakeFreeRtos.Mutex.Recursive
import FakeFreeRtos.Queue.Copies
import FakeFreeRtos.Sets.Termination
import FakeFreeRtos.Clock.TickLength
import FakeFreeRtos.Button.Delivery
import FakeFreeRtos.Foundations.Itinerary
import FakeFreeRtos.Foundations.Lockstep
import FakeFreeRtos.Lock.Controller
import FakeFreeRtos.Lock.Reports
import FakeFreeRtos.Queue.Registry
import FakeFreeRtos.Foundations.Permits
import FakeFreeRtos.Queue.Channel
import FakeFreeRtos.Semaphore.Permits
import FakeFreeRtos.Button.Life
import FakeFreeRtos.Foundations.Lanes
import FakeFreeRtos.Lock.Tenant
import FakeFreeRtos.Sets.EventLoop
import FakeFreeRtos.Clock.TimerTable
import FakeFreeRtos.Lock.Life
import FakeFreeRtos.Program.Services
