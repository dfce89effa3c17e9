import Casskop.Validation.DeleteDC
import Casskop.Controller.Gate
import Casskop.Controller.Isolation
import Casskop.MultiCasskop.Fixpoint
import Casskop.BackRest.OneShot
import Casskop.Controller.DataCapacity
import Casskop.Controller.Readiness
import Casskop.Controller.Recreation
import Casskop.Controller.Finalizing
import Casskop.Api.SeedList
import Casskop.Controller.SeedUpdates
import Casskop.Controller.ClusterPhase
import Casskop.Controller.CrossIp
import Casskop.Validation.Keyspaces
import Casskop.Controller.PodMounts
import Casskop.Controller.NodeConfig
import Casskop.Controller.Absorption
import Casskop.Controller.RackNames
import Casskop.Kube.PodOrder
import Casskop.MultiCasskop.Rollout
import Casskop.BackRest.CronEngine
import Casskop.BackRest.Bandwidth
import Casskop.BackRest.ScheduleUndo
import Casskop.BackRest.RestoreErrors
import Casskop.Controller.RemoveNode
