import VolumeDriver.InMemory.Programs
import VolumeDriver.InMemory.Site
import VolumeDriver.InMemory.World
import VolumeDriver.Main
import VolumeDriver.Proofs.BlockVolume.Conflict
import VolumeDriver.Proofs.BlockVolume.NamedNode
import VolumeDriver.Proofs.CallOut.Grammar
import VolumeDriver.Proofs.Config.Defaults
import VolumeDriver.Proofs.Controller.DevicePath
import VolumeDriver.Proofs.FileStorage.SideBySide
import VolumeDriver.Proofs.Host.DeviceSpelling
import VolumeDriver.Proofs.Host.MountEscapes
import VolumeDriver.Proofs.Host.MountExport
import VolumeDriver.Proofs.Host.Refusals
import VolumeDriver.Proofs.InMemory.CacheGrowth
import VolumeDriver.Proofs.InMemory.CacheTransparency
import VolumeDriver.Proofs.InMemory.OnePage
import VolumeDriver.Proofs.InMemory.PersistentMap
import VolumeDriver.Proofs.InMemory.Separation
import VolumeDriver.Proofs.InMemory.Sessions
import VolumeDriver.Proofs.Linux.FormatAndMount
import VolumeDriver.Proofs.Linux.Likeness
import VolumeDriver.Proofs.Options
import VolumeDriver.Proofs.Resource.Codec
import VolumeDriver.Proofs.Status
import VolumeDriver.Proofs.Volume.Name
import VolumeDriver.Proofs.VolumeLife
import VolumeDriver.Proofs.Waiting
