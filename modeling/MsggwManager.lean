import MsggwManager.Python.Text
import MsggwManager.Python.Int
import MsggwManager.Python.Json
import MsggwManager.Transport
import MsggwManager.Numbers.Parse
import MsggwManager.Api
import MsggwManager.Frame
import MsggwManager.Clients.Lookup
import MsggwManager.Numbers.Add
import MsggwManager.Numbers.Batch
import MsggwManager.Numbers.Listing
import MsggwManager.Carriers
import MsggwManager.Clients.Manage
import MsggwManager.Session
import MsggwManager.Safety
import MsggwManager.Forms
import MsggwManager.Faults
import MsggwManager.Triple
import MsggwManager.Choices
import MsggwManager.Crashes
import MsggwManager.Clients.Paths
import MsggwManager.Numbers.Shared
import MsggwManager.QuickFlow
import MsggwManager.Contract
