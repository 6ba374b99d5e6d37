import Automation.Text.Composition

/-!
# Mapped characters of domain names

What the characters of a domain name are read as before anything else: capital letters as small
ones, compatibility characters as what they stand for, and some characters as nothing. A character
that has a canonical decomposition is left to composition. Of what remains, a domain name may hold
any assigned character that is not in the list of refused ones.
-/

namespace Automation.Web

open Automation.Text

/-- Runs of characters, in base 36: the first and the last character, the distance between two of
them, and the image of the first. The images advance with the characters. -/
def parallelTable : List String :=
  ["1t 2i 1 2p,4g 4g 1 w,4q 4q 1 2p,4y 4z 1 1e,51 51 1 qk,55 55 1 1d,56 56 1 33,5c 5y 1 68",
     "60 66 1 6w,74 8e 2 75,8k 8m 2 8l,8p 8t 2 8q,8x 93 2 8y,96 ae 2 97,ag ag 1 73,ah al 2 ai",
     "an an 1 37,ap ap 1 gj,aq as 2 ar,au au 1 gk,av av 1 aw,ax ay 1 gm,az az 1 b0,b2 b2 1 d9",
     "b3 b3 1 gp,b4 b4 1 gr,b5 b5 1 b6,b7 b7 1 gw,b8 b8 1 gz,ba ba 1 h5,bb bb 1 h4,bc bc 1 bd",
     "bg bg 1 hb,bh bh 1 he,bj bj 1 hh,bk bo 2 bl,bq bq 1 hs,br br 1 bs,bt bt 1 hv,bw bw 1 bx",
     "by by 1 i0,bz bz 1 c0,c1 c2 1 i2,c3 c5 2 c4,c7 c7 1 ia,c8 c8 1 c9,cc cc 1 cd,ct d7 2 cu",
     "da dq 2 db,dw dw 1 dx,dy dy 1 b9,dz dz 1 cf,e0 f2 2 e1,f4 f4 1 bi,f6 fm 2 f7,fu fu 1 8rp",
     "fv fv 1 fw,fx fx 1 be,fy fy 1 8rq,g1 g1 1 g2,g3 g3 1 ao,g4 g4 1 i1,g5 g5 1 i4,g6 ge 2 g7",
     "j4 j4 1 2w,j5 j5 1 h2,j6 j6 1 2y,j7 j7 1 36,j8 j8 1 hl,j9 j9 1 hn,ja ja 1 ht,jb jb 1 3b",
     "jc jc 1 3d,kg kg 1 gz,kh kh 1 30,ki ki 1 37,kj kj 1 3c,kk kk 1 id,n9 n9 1 qh,og oi 2 oh",
     "om om 1 on,ov ov 1 s3,p2 p2 1 q4,p4 p6 1 q5,p8 p8 1 r0,pa pb 1 r1,pd pt 1 q9,pv q3 1 qr",
     "r3 r3 1 rb,r4 r4 1 qa,r5 r5 1 qg,r6 r6 1 qt,r7 r7 1 r1,r8 r8 1 qz,r9 r9 1 qu,ra ra 1 qo",
     "rc ry 2 rd,s0 s0 1 qi,s1 s1 1 qp,s2 s2 1 qr,s4 s4 1 qg,s5 s5 1 qd,s7 s7 1 s8,s9 s9 1 qr",
     "sa sa 1 sb,sd sf 1 or,sg sv 1 uo,sw tr 1 ts,v4 w0 2 v5,wa xq 2 wb,xs xs 1 y7,xt y5 2 xu",
     "y8 10u 2 y9,10x 11y 1 129,2z0 2z0 1 2yz,3a8 3b9 1 8w0,3bb 3bb 1 8x3,3bh 3bh 1 8x9",
     "3cs 3cs 1 3bw,3y0 3y5 1 3xs,5mo 5mo 1 tu,5mp 5mp 1 tw,5mq 5mq 1 u6,5mr 5ms 1 u9",
     "5mt 5mt 1 ua,5mu 5mu 1 ui,5mv 5mv 1 v7,5mw 5mw 1 wuj,5mx 5mx 1 5my,5n4 5oa 1 3bk",
     "5od 5of 1 3ct,5rg 5rg 1 2p,5rh 5rh 1 6e,5ri 5rk 2 2q,5rl 5rl 1 2t,5rm 5rm 1 d9",
     "5rn 5ru 1 2v,5rw 5rw 1 33,5rx 5rx 1 f7,5ry 5ry 1 34,5rz 5rz 1 36,5s0 5s1 1 38",
     "5s2 5s2 1 3b,5s3 5s3 1 2p,5s4 5s5 1 gg,5s6 5s6 1 5qa,5s7 5s7 1 2q,5s8 5s9 1 2s",
     "5sa 5sa 1 gp,5sb 5sc 1 gr,5sd 5sd 1 2v,5sf 5sf 1 2z,5sg 5sg 1 31,5sh 5sh 1 97",
     "5si 5si 1 33,5sj 5sj 1 gk,5sk 5sl 1 5qu,5sm 5sm 1 34,5sn 5so 1 38,5sp 5sp 1 5r1",
     "5sq 5sq 1 hb,5sr 5sr 1 3a,5ss 5ss 1 5r9,5st 5sv 1 qa,5sw 5sx 1 qu,5sy 5sy 1 2x",
     "5sz 5sz 1 36,5t0 5t1 1 39,5t2 5t3 1 qa,5t4 5t4 1 qp,5t5 5t6 1 qu,5tk 5tk 1 u5",
     "5uj 5uj 1 gi,5uk 5uk 1 2r,5ul 5ul 1 gl,5um 5um 1 6o,5un 5un 1 gs,5uo 5uo 1 2u",
     "5up 5up 1 gv,5uq 5uq 1 gx,5ur 5ur 1 h1,5us 5uu 1 h4,5uv 5uv 1 5tn,5uw 5uw 1 il",
     "5ux 5ux 1 h9,5uy 5uy 1 5tx,5uz 5uz 1 in,5v0 5v0 1 hd,5v1 5v1 1 hc,5v2 5v5 1 he",
     "5v6 5v6 1 hk,5v7 5v8 1 hu,5v9 5v9 1 bv,5va 5vb 1 i1,5vc 5vc 1 5r0,5vd 5ve 1 i3",
     "5vf 5vf 1 3e,5vg 5vi 1 i8,5vj 5vj 1 qg,5xc 61g 2 5xd,61n 61n 1 601,61q 61q 1 67",
     "61s 64e 2 61t,64o 64v 1 64g,654 659 1 64w,65k 65r 1 65c,660 667 1 65s,66g 66l 1 668",
     "66x 673 2 66p,67c 67j 1 674,69k 69l 1 69c,69m 69m 1 67k,69n 69n 1 q4,6a0 6a0 1 67m",
     "6a1 6a1 1 q5,6a2 6a2 1 67o,6a3 6a3 1 q6,6ag 6ah 1 6a8,6ai 6ai 1 67q,6aj 6aj 1 q7",
     "6aw 6ax 1 6ao,6ay 6ay 1 67u,6az 6az 1 r1,6b0 6b0 1 6at,6bc 6bc 1 67s,6bd 6bd 1 r0",
     "6be 6be 1 67w,6bf 6bf 1 r2,6c1 6c1 1 6c0,6cv 6cv 1 w,6e7 6e7 1 w,6eo 6eo 1 1c",
     "6ep 6ep 1 2x,6es 6ex 1 1g,6ey 6ey 1 17,6ez 6ez 1 6qa,6f0 6f0 1 1p,6f1 6f2 1 14",
     "6f3 6f3 1 32,6f4 6fd 1 1c,6fe 6fe 1 17,6ff 6ff 1 6qa,6fg 6fg 1 1p,6fh 6fi 1 14",
     "6fk 6fk 1 2p,6fl 6fl 1 2t,6fm 6fm 1 33,6fn 6fn 1 3c,6fo 6fo 1 gp,6fp 6fp 1 2w",
     "6fq 6ft 1 2z,6fu 6fu 1 34,6fv 6fw 1 37,6iq 6iq 1 2r,6iv 6iv 1 gr,6iy 6iz 1 2v",
     "6j3 6j3 1 87,6j9 6j9 1 32,6jd 6jf 1 34,6jo 6jo 1 3e,6jq 6jq 1 qx,6js 6js 1 3e",
     "6ju 6ju 1 2z,6jv 6jv 1 6d,6jw 6jx 1 2q,6k1 6k1 1 2u,6k2 6k2 1 6ku,6k3 6k3 1 31",
     "6k4 6k4 1 33,6k5 6k8 1 15c,6k9 6k9 1 2x,6kc 6kc 1 qo,6kf 6kf 1 qo,6kg 6kg 1 6q9",
     "6kn 6kn 1 2t,6ko 6kp 1 2x,6lc 6lc 1 2x,6lg 6lg 1 3a,6ll 6ll 1 3c,6lo 6lo 1 30",
     "6lp 6lq 1 2r,6lr 6lr 1 31,6ls 6ls 1 2x,6lw 6lw 1 3a,6m1 6m1 1 3c,6m4 6m4 1 30",
     "6m5 6m6 1 2r,6m7 6m7 1 31,6mb 6mb 1 6mc,76o 76w 1 1d,792 79r 1 2p,79s 7ah 1 2p",
     "7ai 7ai 1 1c,8ow 8q7 1 8q8,8rk 8rk 1 8rl,8rm 8rm 1 h7,8rn 8rn 1 5tp,8ro 8ro 1 hp",
     "8rr 8rv 2 8rs,8rx 8rx 1 gh,8ry 8ry 1 hd,8rz 8rz 1 gg,8s0 8s0 1 gi,8s2 8s2 1 8s3",
     "8s5 8s5 1 8s6,8sc 8sc 1 2y,8sd 8sd 1 3a,8se 8sf 1 fz,8sg 8v6 2 8sh,8vf 8vh 2 8vg",
     "8vm 8vm 1 8vn,8z3 8z3 1 8yp,97j 97j 1 lal,99v 99v 1 vj3,9a8 9a8 1 feo,9a9 9a9 1 ffs",
     "9aa 9aa 1 fg6,9ab 9ab 1 fgf,9ac 9ac 1 fh5,9ad 9ad 1 fid,9ae 9ae 1 fik,9af 9af 1 fj4",
     "9ag 9ag 1 fju,9ah 9ah 1 g1r,9ai 9ai 1 g2t,9aj 9aj 1 g2z,9ak 9ak 1 g3m,9al 9al 1 g46",
     "9am 9am 1 g4r,9an 9an 1 g68,9ao 9ao 1 g6t,9ap 9ap 1 g74,9aq 9aq 1 gbf,9ar 9ar 1 ge1",
     "9as 9as 1 get,9at 9at 1 gey,9au 9au 1 gfs,9av 9av 1 gg1,9aw 9aw 1 ggs,9ax 9ax 1 gh5",
     "9ay 9ay 1 ghu,9az 9az 1 gja,9b0 9b0 1 gjs,9b1 9b1 1 gkj,9b2 9b2 1 h5j,9b3 9b3 1 h7j",
     "9b4 9b4 1 hkb,9b5 9b5 1 hky,9b6 9b6 1 hl6,9b7 9b7 1 hlh,9b8 9b8 1 hlz,9b9 9b9 1 ho3",
     "9ba 9ba 1 i1c,9bb 9bb 1 i2o,9bc 9bc 1 i60,9bd 9bd 1 i6n,9be 9be 1 i76,9bf 9bf 1 i7s",
     "9bg 9bg 1 i9a,9bh 9bh 1 i9d,9bi 9bi 1 ijf,9bj 9bj 1 ijp,9bk 9bk 1 ik1,9bl 9bl 1 ike",
     "9bm 9bm 1 inm,9bn 9bn 1 inu,9bo 9bo 1 inz,9bp 9bp 1 ir8,9bq 9bq 1 iri,9br 9br 1 irv",
     "9bs 9bs 1 is3,9bt 9bt 1 its,9bu 9bu 1 iu9,9bv 9bv 1 iur,9bw 9bw 1 iwz,9bx 9bx 1 jd4",
     "9by 9by 1 jee,9bz 9bz 1 jez,9c0 9c0 1 jzj,9c1 9c1 1 jzo,9c2 9c2 1 k1z,9c3 9c3 1 k2f",
     "9c4 9c4 1 k2s,9c5 9c5 1 k3d,9c6 9c6 1 k4g,9c7 9c7 1 k4l,9c8 9c8 1 kc0,9c9 9c9 1 kco",
     "9ca 9ca 1 kdk,9cb 9cb 1 l5s,9cc 9cc 1 l7m,9cd 9cd 1 l89,9ce 9ce 1 l9v,9cf 9cf 1 laj",
     "9cg 9cg 1 las,9ch 9ch 1 laz,9ci 9ci 1 lcf,9cj 9cj 1 lck,9ck 9ck 1 ldg,9cl 9cl 1 m7f",
     "9cm 9cm 1 mju,9cn 9cn 1 mk6,9co 9co 1 mkb,9cp 9cp 1 mkf,9cq 9cq 1 mkn,9cr 9cr 1 ml5",
     "9cs 9cs 1 ml7,9ct 9ct 1 mng,9cu 9cu 1 mtg,9cv 9cv 1 mtl,9cw 9cw 1 n30,9cx 9cx 1 n3a",
     "9cy 9cy 1 n4o,9cz 9cz 1 n4v,9d0 9d0 1 n54,9d1 9d1 1 n5c,9d2 9d2 1 n7v,9d3 9d3 1 n82",
     "9d4 9d4 1 nee,9d5 9d5 1 nel,9d6 9d6 1 nfy,9d7 9d7 1 ngf,9d8 9d8 1 nhq,9d9 9d9 1 nob",
     "9da 9da 1 noi,9db 9db 1 noz,9dc 9dc 1 ny2,9dd 9dd 1 o1k,9de 9de 1 o1q,9df 9df 1 o6s",
     "9dg 9dg 1 o97,9dh 9dh 1 oah,9di 9di 1 okz,9dj 9dj 1 ooo,9dk 9dk 1 p4m,9dl 9dl 1 p5d",
     "9dm 9dm 1 p6y,9dn 9dn 1 p8d,9do 9do 1 pa9,9dp 9dp 1 pak,9dq 9dq 1 paq,9dr 9dr 1 pbn",
     "9ds 9ds 1 pdr,9dt 9dt 1 pe1,9du 9du 1 pnn,9dv 9dv 1 pnu,9dw 9dw 1 po3,9dx 9dx 1 poc",
     "9dy 9dy 1 pos,9dz 9dz 1 pp7,9e0 9e0 1 ppb,9e1 9e1 1 pri,9e2 9e2 1 prm,9e3 9e3 1 prs",
     "9e4 9e4 1 qj1,9e5 9e5 1 qjv,9e6 9e6 1 qww,9e7 9e7 1 qx8,9e8 9e8 1 qxv,9e9 9e9 1 r5q",
     "9ea 9ea 1 r63,9eb 9eb 1 r82,9ec 9ec 1 r9c,9ed 9ed 1 rp3,9ee 9ee 1 rpi,9ef 9ef 1 rpx",
     "9eg 9eg 1 rqw,9eh 9eh 1 rrx,9ei 9ei 1 rxg,9ej 9ej 1 rxs,9ek 9ek 1 rzn,9el 9el 1 s6j",
     "9em 9em 1 s7e,9en 9en 1 sd7,9eo 9eo 1 sds,9ep 9ep 1 sdx,9eq 9eq 1 sk1,9er 9er 1 sp5",
     "9es 9es 1 ssm,9et 9et 1 sss,9eu 9eu 1 ssx,9ev 9ev 1 tiv,9ew 9ew 1 tj4,9ex 9ex 1 tng",
     "9ey 9ey 1 trq,9ez 9ez 1 trt,9f0 9f0 1 tt4,9f1 9f1 1 tw1,9f2 9f2 1 twe,9f3 9f3 1 twi",
     "9f4 9f4 1 twp,9f5 9f5 1 tzf,9f6 9f6 1 u0d,9f7 9f7 1 u0j,9f8 9f8 1 u0x,9f9 9f9 1 u5k",
     "9fa 9fa 1 u6z,9fb 9fb 1 u73,9fc 9fc 1 uc6,9fd 9fd 1 uc9,9fe 9fe 1 ucs,9ff 9ff 1 ujs",
     "9fg 9fg 1 ul4,9fh 9fh 1 ulb,9fi 9fi 1 un9,9fj 9fj 1 unj,9fk 9fk 1 unm,9fl 9fl 1 unw",
     "9fm 9fm 1 uoq,9fn 9fn 1 uzp,9fo 9fo 1 vat,9fp 9fp 1 vb3,9fq 9fq 1 vc5,9fr 9fr 1 vcr",
     "9fs 9fs 1 vcz,9ft 9ft 1 vd9,9fu 9fu 1 vdd,9fv 9fv 1 veh,9fw 9fw 1 vel,9fx 9fx 1 vf2",
     "9fy 9fy 1 vf7,9fz 9fz 1 vfk,9g0 9g0 1 vgb,9g1 9g1 1 vgq,9g2 9g2 1 vgy,9g3 9g3 1 vil",
     "9g4 9g4 1 vj0,9g5 9g5 1 vj4,9hc 9hc 1 w,9he 9he 1 1a,9iu 9iu 1 9hu,9iw 9iw 1 gg1",
     "9ix 9iy 1 gg4,9pt 9pu 1 3cw,9pv 9pv 1 3hm,9pw 9pw 1 3cy,9px 9py 1 3ho,9pz 9q1 1 3cz",
     "9q2 9q7 1 3hs,9q8 9q8 1 3dm,9q9 9qb 1 3d2,9qc 9qc 1 3dt,9qd 9qm 1 3d5,9qn 9r7 1 3fl",
     "9r9 9ra 1 3dg,9rb 9rc 1 3if,9rd 9rd 1 3ik,9re 9re 1 3im,9rf 9rf 1 3ir,9rg 9rg 1 3iv",
     "9rh 9rh 1 3ix,9ri 9ri 1 3do,9rj 9rj 1 3j1,9rk 9rk 1 3j3,9rl 9rm 1 3dp,9rn 9rn 1 3ds",
     "9ro 9rp 1 3du,9rq 9rq 1 3dz,9rr 9rr 1 3e1,9rs 9rw 1 3e3,9rx 9rx 1 3ea,9ry 9ry 1 3ee",
     "9rz 9rz 1 3eo,9s0 9s0 1 3ev,9s1 9s1 1 3f0,9s2 9s3 1 3jl,9s4 9s6 1 3fb,9s7 9s8 1 3gk",
     "9s9 9s9 1 3go,9sa 9sb 1 3gx,9sc 9sc 1 3h0,9sd 9sd 1 3ha,9se 9se 1 3hd,9si 9si 1 feo",
     "9sj 9sj 1 fik,9sk 9sk 1 fex,9sl 9sl 1 h5n,9sm 9sm 1 fey,9sn 9sn 1 ffx,9so 9so 1 fez",
     "9sp 9sp 1 n5e,9sq 9sq 1 fh5,9sr 9sr 1 ffd,9ss 9ss 1 fep,9st 9st 1 hm1,9su 9su 1 h80",
     "9sv 9sv 1 fju,9xg 9xg 1 gun,9xh 9xh 1 inw,9xi 9xi 1 k1z,9xj 9xj 1 oen,9y8 9y8 1 3cw",
     "9y9 9ya 1 3cy,9yb 9yd 1 3d1,9ye 9ye 1 3d5,9yf 9yg 1 3d7,9yh 9yl 1 3da,9ym 9ym 1 xz4",
     "9yn 9yn 1 yvs,9yo 9yo 1 zc4,9yp 9yp 1 108s,9yq 9yq 1 10p4,9yr 9yr 1 115g,9ys 9ys 1 1224",
     "9yt 9yt 1 12ys,9yu 9yu 1 13f4,9yv 9yv 1 14bs,9yw 9yw 1 14s4,9yx 9yx 1 158g",
     "9yy 9yy 1 15os,9yz 9yz 1 1654,9z2 9z2 1 138w,9z4 9z4 1 feo,9z5 9z5 1 fik,9z6 9z6 1 fex",
     "9z7 9z7 1 h5n,9z8 9z8 1 fis,9z9 9z9 1 g31,9za 9za 1 fer,9zb 9zb 1 g2z,9zc 9zc 1 fh9",
     "9zd 9zd 1 gg1,9ze 9ze 1 kco,9zf 9zf 1 m7f,9zg 9zg 1 ldg,9zh 9zh 1 kdk,9zi 9zi 1 ssx",
     "9zj 9zj 1 h7j,9zk 9zk 1 k4l,9zl 9zl 1 kkq,9zm 9zm 1 kcp,9zn 9zn 1 ny6,9zo 9zo 1 glp",
     "9zp 9zp 1 mm1,9zq 9zq 1 rs1,9zr 9zr 1 nz1,9zs 9zs 1 gc4,9zt 9zt 1 o2g,9zu 9zu 1 n5j",
     "9zv 9zv 1 ho3,9zw 9zw 1 six,9zx 9zx 1 g16,9zy 9zy 1 ghc,9zz 9zz 1 lig,a00 a00 1 u11",
     "a01 a01 1 fm9,a02 a02 1 g49,a03 a03 1 l7n,a04 a04 1 fey,a05 a05 1 ffx,a06 a06 1 fez",
     "a07 a07 1 ijq,a08 a08 1 gkz,a09 a09 1 gfv,a0a a0a 1 i3b,a0b a0b 1 i1y,a0c a0c 1 nhf",
     "a0d a0d 1 flt,a0e a0e 1 rt3,a0f a0f 1 ggk,a0g a0g 1 hlo,a1c a1c 1 9lu,a1d a1d 1 9lw",
     "a1e a1e 1 9ly,a1f a1f 1 9m0,a1g a1h 1 9m2,a1i a1i 1 9m5,a1j a1j 1 9m7,a1k a1k 1 9m9",
     "a1l a1l 1 9mb,a1m a1m 1 9md,a1n a1n 1 9mf,a1o a1o 1 9mh,a1p a1p 1 9mj,a1q a1q 1 9ml",
     "a1r a1r 1 9mn,a1s a1s 1 9mp,a1t a1t 1 9ms,a1u a1u 1 9mu,a1v a1v 1 9mw,a1w a21 1 9my",
     "a22 a22 1 9n6,a23 a23 1 9n9,a24 a24 1 9nc,a25 a25 1 9nf,a26 a2a 1 9ni,a2b a2b 1 9no",
     "a2c a2c 1 9nq,a2d a2i 1 9ns,a2j a2m 1 9nz,wu8 wvg 2 wu9,ww0 wwq 2 ww1,wws wws 1 ui",
     "wwt wwt 1 uk,x0i x0u 2 x0j,x0y x2m 2 x0z,x2o x2o 1 x2n,x2x x2z 2 x2y,x31 x31 1 5tl",
     "x32 x3a 2 x33,x3f x3f 1 x3g,x3h x3h 1 h1,x3k x3m 2 x3l,x3q x48 2 x3r,x4a x4a 1 h2",
     "x4b x4b 1 gs,x4c x4c 1 gx,x4d x4d 1 h8,x4e x4e 1 h6,x4g x4g 1 im,x4h x4h 1 hz",
     "x4i x4i 1 il,x4j x4j 1 xub,x4k x4y 2 x4l,x50 x50 1 x3o,x51 x51 1 hu,x52 x52 1 5u6",
     "x53 x55 2 x54,x57 x57 1 h0,x58 x5m 2 x59,x5o x5o 1 bf,x69 x69 1 37,x6a x6a 1 2r",
     "x6b x6b 1 2u,x6c x6c 1 35,x6d x6d 1 x6e,x6g x6g 1 87,x6h x6h 1 9f,xuk xuk 1 x0n",
     "xul xul 1 xtj,xum xum 1 h7,xun xun 1 xua,xux xux 1 i5,xv4 xxb 1 3vk,1dls 1dls 1 15u",
     "1dlt 1dlt 1 15c,1dlu 1dlv 1 15f,1dlw 1dly 1 15n,1dlz 1dlz 1 160,1dm0 1dm0 1 162",
     "1dm1 1dm1 1 17,1e6o 1e6o 1 18,1e6p 1e6p 1 9hd,1e6r 1e6s 1 1m,1e6t 1e6t 1 x",
     "1e6u 1e6u 1 1r,1e6v 1e6w 1 9hy,1e7l 1e7l 1 6c4,1e7m 1e7m 1 6c3,1e7p 1e7q 1 14",
     "1e7r 1e7r 1 3f,1e7s 1e7s 1 3h,1e7t 1e7u 1 9hw,1e7v 1e7w 1 9hs,1e7x 1e7y 1 9hm",
     "1e7z 1e80 1 9hk,1e81 1e84 1 9ho,1e87 1e87 1 2j,1e88 1e88 1 2l,1e8g 1e8g 1 18",
     "1e8h 1e8h 1 9hd,1e8k 1e8k 1 1n,1e8l 1e8l 1 1m,1e8m 1e8m 1 1r,1e8n 1e8n 1 x",
     "1e8o 1e8o 1 6c4,1e8p 1e8q 1 14,1e8r 1e8r 1 3f,1e8s 1e8s 1 3h,1e8t 1e8u 1 9hw",
     "1e8v 1e8v 1 z,1e8w 1e8w 1 12,1e8x 1e8y 1 16,1e8z 1e8z 1 19,1e90 1e90 1 1o,1e91 1e91 1 1q",
     "1e92 1e92 1 1p,1e94 1e94 1 2k,1e95 1e96 1 10,1e97 1e97 1 1s,1e9s 1e9t 1 17l",
     "1e9u 1e9v 1 17m,1e9w 1e9x 1 17n,1e9y 1e9z 1 17o,1ea0 1ea1 1 17p,1edd 1ee8 1 x",
     "1ee9 1eey 1 2p,1eez 1efy 1 2j,1efz 1eg0 1 879,1eg1 1eg1 1 1a,1eg2 1eg3 1 9ho",
     "1eg4 1eg4 1 9hd,1eg5 1eg5 1 9ob,1eg6 1eg6 1 9o2,1eg7 1eg7 1 9lt,1eg8 1eg8 1 9lv",
     "1eg9 1eg9 1 9lx,1ega 1ega 1 9lz,1egb 1egb 1 9m1,1egc 1egc 1 9nn,1egd 1egd 1 9np",
     "1ege 1ege 1 9nr,1egf 1egf 1 9mr,1egg 1egg 1 9oc,1egh 1egh 1 9lu,1egi 1egi 1 9lw",
     "1egj 1egj 1 9ly,1egk 1egk 1 9m0,1egl 1egm 1 9m2,1egn 1egn 1 9m5,1ego 1ego 1 9m7",
     "1egp 1egp 1 9m9,1egq 1egq 1 9mb,1egr 1egr 1 9md,1egs 1egs 1 9mf,1egt 1egt 1 9mh",
     "1egu 1egu 1 9mj,1egv 1egv 1 9ml,1egw 1egw 1 9mn,1egx 1egx 1 9mp,1egy 1egy 1 9ms",
     "1egz 1egz 1 9mu,1eh0 1eh0 1 9mw,1eh1 1eh6 1 9my,1eh7 1eh7 1 9n6,1eh8 1eh8 1 9n9",
     "1eh9 1eh9 1 9nc,1eha 1eha 1 9nf,1ehb 1ehf 1 9ni,1ehg 1ehg 1 9no,1ehh 1ehh 1 9nq",
     "1ehi 1ehn 1 9ns,1eho 1eho 1 9nz,1ehp 1ehp 1 9o3,1ehq 1ehr 1 9ll,1eht 1ehu 1 3cw",
     "1ehv 1ehv 1 3hm,1ehw 1ehw 1 3cy,1ehx 1ehy 1 3ho,1ehz 1ei1 1 3cz,1ei2 1ei7 1 3hs",
     "1ei8 1ei8 1 3dm,1ei9 1eib 1 3d2,1eic 1eic 1 3dt,1eid 1eim 1 3d5,1eiq 1eiv 1 3fl",
     "1eiy 1ej3 1 3fr,1ej6 1ejb 1 3fx,1eje 1ejg 1 3g3,1ejk 1ejl 1 4i,1ejm 1ejm 1 4s",
     "1ejo 1ejo 1 4m,1ejp 1ejp 1 4l,1ejq 1ejq 1 6g9,1ejs 1ejs 1 7b6,1ejt 1ejw 1 6mo",
     "1ejx 1ejx 1 7fk,1ejy 1ejy 1 7gr,1fcw 1fdz 1 1fe0,1fhs 1fir 1 1fiw,1fn4 1fne 1 1fo7",
     "1fng 1fnu 1 1foj,1fnw 1fo2 1 1foz,1fo4 1fo5 1 1fp7,1g1t 1g1u 1 k0,1g1v 1g1v 1 6e",
     "1g1w 1g1w 1 ih,1g1x 1g1x 1 gj,1g1z 1g1z 1 ir,1g20 1g20 1 xuu,1g21 1g21 1 it",
     "1g22 1g22 1 is,1g23 1g24 1 gm,1g25 1g25 1 5u9,1g26 1g26 1 go,1g27 1g27 1 gu",
     "1g28 1g28 1 ix,1g29 1g29 1 h0,1g2a 1g2a 1 gy,1g2b 1g2b 1 gw,1g2c 1g2c 1 ij",
     "1g2d 1g2d 1 87,1g2e 1g2e 1 ik,1g2f 1g2f 1 h3,1g2g 1g2g 1 hw,1g2h 1g2i 1 iy",
     "1g2j 1g2j 1 h8,1g2k 1g2k 1 2mmc,1g2l 1g2l 1 x3i,1g2m 1g2m 1 ha,1g2n 1g2n 1 2mmd",
     "1g2o 1g2o 1 i6,1g2p 1g2p 1 2mme,1g2q 1g2q 1 6w,1g2r 1g2s 1 hi,1g2t 1g2t 1 35",
     "1g2u 1g2u 1 hm,1g2v 1g2v 1 2mmg,1g2w 1g2x 1 hp,1g2y 1g2y 1 hs,1g2z 1g2z 1 iw",
     "1g30 1g30 1 iu,1g31 1g31 1 xuv,1g32 1g32 1 iv,1g33 1g33 1 i0,1g34 1g34 1 8s1",
     "1g36 1g36 1 i7,1g37 1g38 1 ip,1g39 1g39 1 ig,1g3a 1g3c 1 cg,1g3d 1g3d 1 2mmi",
     "1g3e 1g3e 1 2mn2,1h1c 1h2q 1 1h34,1h74 1h7p 1 1h80,1jfk 1jgf 1 1jgg,20cg 20db 1 20dc",
     "20f4 20fs 1 20fv,2j12 2j1r 1 2p,2j1s 2j21 1 1c,2kg0 2kgp 1 2p,2kgq 2khf 1 2p",
     "2khg 2ki5 1 2p,2ki6 2kic 1 2p,2kie 2kiv 1 2x,2kiw 2kjl 1 2p,2kjm 2kkb 1 2p",
     "2kkc 2kke 2 2p,2kkf 2kkf 1 2s,2kki 2kki 1 2v,2kkl 2kkm 1 2y,2kkp 2kks 1 32",
     "2kku 2kl1 1 37,2kl2 2kl5 1 2p,2kl7 2kl9 2 2u,2kla 2klf 1 2x,2klh 2klr 1 34",
     "2kls 2kmh 1 2p,2kmi 2kn7 1 2p,2kn8 2kn9 1 2p,2knb 2kne 1 2s,2knh 2kno 1 2y",
     "2knq 2knw 1 37,2kny 2kon 1 2p,2koo 2kop 1 2p,2kor 2kou 1 2s,2kow 2kp0 1 2x",
     "2kp2 2kp2 1 33,2kp6 2kpc 1 37,2kpe 2kq3 1 2p,2kq4 2kqt 1 2p,2kqu 2krj 1 2p",
     "2krk 2ks9 1 2p,2ksa 2ksz 1 2p,2kt0 2ktp 1 2p,2ktq 2kuf 1 2p,2kug 2kv5 1 2p",
     "2kv6 2kvv 1 2p,2kvw 2kwl 1 2p,2kwm 2kxb 1 2p,2kxc 2ky1 1 2p,2ky2 2kyr 1 2p",
     "2kys 2kys 1 8h,2kyt 2kyt 1 fr,2kyw 2kzc 1 q9,2kzd 2kzd 1 qg,2kze 2kzk 1 qr",
     "2kzl 2kzl 1 6pz,2kzm 2l02 1 q9,2l05 2l0a 1 qs,2l0b 2l0b 1 6pu,2l0c 2l0c 1 qd",
     "2l0d 2l0d 1 qg,2l0e 2l0e 1 qi,2l0f 2l0f 1 qu,2l0g 2l0g 1 qp,2l0h 2l0h 1 qo",
     "2l0i 2l0y 1 q9,2l0z 2l0z 1 qg,2l10 2l16 1 qr,2l17 2l17 1 6pz,2l18 2l1o 1 q9",
     "2l1r 2l1w 1 qs,2l1x 2l1x 1 6pu,2l1y 2l1y 1 qd,2l1z 2l1z 1 qg,2l20 2l20 1 qi",
     "2l21 2l21 1 qu,2l22 2l22 1 qp,2l23 2l23 1 qo,2l24 2l2k 1 q9,2l2l 2l2l 1 qg",
     "2l2m 2l2s 1 qr,2l2t 2l2t 1 6pz,2l2u 2l3a 1 q9,2l3d 2l3i 1 qs,2l3j 2l3j 1 6pu",
     "2l3k 2l3k 1 qd,2l3l 2l3l 1 qg,2l3m 2l3m 1 qi,2l3n 2l3n 1 qu,2l3o 2l3o 1 qp",
     "2l3p 2l3p 1 qo,2l3q 2l46 1 q9,2l47 2l47 1 qg,2l48 2l4e 1 qr,2l4f 2l4f 1 6pz",
     "2l4g 2l4w 1 q9,2l4z 2l54 1 qs,2l55 2l55 1 6pu,2l56 2l56 1 qd,2l57 2l57 1 qg",
     "2l58 2l58 1 qi,2l59 2l59 1 qu,2l5a 2l5a 1 qp,2l5b 2l5b 1 qo,2l5c 2l5s 1 q9",
     "2l5t 2l5t 1 qg,2l5u 2l60 1 qr,2l61 2l61 1 6pz,2l62 2l6i 1 q9,2l6l 2l6q 1 qs",
     "2l6r 2l6r 1 6pu,2l6s 2l6s 1 qd,2l6t 2l6t 1 qg,2l6u 2l6u 1 qi,2l6v 2l6v 1 qu",
     "2l6w 2l6w 1 qp,2l6x 2l6x 1 qo,2l72 2l7b 1 1c,2l7c 2l7l 1 1c,2l7m 2l7v 1 1c",
     "2l7w 2l85 1 1c,2l86 2l8f 1 1c,2muo 2muw 1 ts,2mux 2muz 1 u2,2mv0 2mva 1 u6",
     "2mvb 2mvb 1 uj,2mvc 2mvd 1 ul,2mve 2mve 1 ww9,2mvf 2mvf 1 yh,2mvg 2mvg 1 uu",
     "2mvh 2mvh 1 uw,2mvi 2mvi 1 yx,2mvj 2mvj 1 xb,2mvk 2mvk 1 y7,2mvl 2mvt 1 ts",
     "2mvu 2mvv 1 u2,2mvw 2mvx 1 u6,2mvy 2mvy 1 u9,2mvz 2mw4 1 ub,2mw5 2mw6 1 ui",
     "2mw7 2mw7 1 wh,2mw8 2mw8 1 uu,2mw9 2mw9 1 ut,2mwa 2mwa 1 v3,2mwb 2mwb 1 x7",
     "2mwc 2mwc 1 wup,2mwd 2mwd 1 xd,2olc 2om9 1 2oma,2pkw 2pkx 1 17r,2pky 2pky 1 17w",
     "2pkz 2pkz 1 17z,2pl1 2pl1 1 18o,2pl2 2pl2 1 182,2pl3 2pl3 1 17x,2pl4 2pl4 1 187",
     "2pl5 2pl5 1 18q,2pl6 2pl9 1 18j,2pla 2pla 1 183,2plb 2plb 1 189,2plc 2plc 1 18h",
     "2pld 2pld 1 185,2ple 2ple 1 18i,2plf 2plf 1 181,2plg 2plg 1 184,2plh 2pli 1 17u",
     "2plj 2plj 1 17y,2plk 2plk 1 180,2pll 2pll 1 186,2plm 2plm 1 188,2pln 2pln 1 18a",
     "2plo 2plo 1 19q,2plp 2plp 1 1bu,2plq 2plq 1 1b5,2plr 2plr 1 19r,2plt 2plt 1 17s",
     "2plu 2plu 1 17w,2plw 2plw 1 18n,2plz 2plz 1 17x,2pm1 2pm1 1 18q,2pm2 2pm5 1 18j",
     "2pm6 2pm6 1 183,2pm7 2pm7 1 189,2pm8 2pm8 1 18h,2pm9 2pm9 1 185,2pma 2pma 1 18i",
     "2pmc 2pmc 1 184,2pmd 2pme 1 17u,2pmf 2pmf 1 17y,2pmh 2pmh 1 186,2pmj 2pmj 1 18a",
     "2pmq 2pmq 1 17w,2pmv 2pmv 1 17x,2pmx 2pmx 1 18q,2pmz 2pn1 2 18k,2pn2 2pn2 1 183",
     "2pn3 2pn3 1 189,2pn5 2pn5 1 185,2pn6 2pn6 1 18i,2pn8 2pn8 1 184,2pnb 2pnb 1 17y",
     "2pnd 2pnd 1 186,2pnf 2pnf 1 18a,2pnh 2pnh 1 1bu,2pnj 2pnj 1 19r,2pnl 2pnl 1 17s",
     "2pnm 2pnm 1 17w,2pno 2pno 1 18n,2pnr 2pnr 1 17x,2pns 2pns 1 187,2pnt 2pnt 1 18q",
     "2pnu 2pnw 2 18j,2pnx 2pnx 1 18m,2pny 2pny 1 183,2pnz 2pnz 1 189,2po0 2po0 1 18h",
     "2po1 2po1 1 185,2po2 2po2 1 18i,2po4 2po4 1 184,2po5 2po6 1 17u,2po7 2po7 1 17y",
     "2po9 2po9 1 186,2poa 2poa 1 188,2pob 2pob 1 18a,2poc 2poc 1 19q,2poe 2poe 1 1b5",
     "2pog 2poh 1 17r,2poi 2poi 1 17w,2poj 2poj 1 17z,2pok 2pol 1 18n,2pom 2pom 1 182",
     "2pon 2pon 1 17x,2poo 2poo 1 187,2pop 2pop 1 18q,2por 2pot 1 18k,2pou 2pou 1 183",
     "2pov 2pov 1 189,2pow 2pow 1 18h,2pox 2pox 1 185,2poy 2poy 1 18i,2poz 2poz 1 181",
     "2pp0 2pp0 1 184,2pp1 2pp2 1 17u,2pp3 2pp3 1 17y,2pp4 2pp4 1 180,2pp5 2pp5 1 186",
     "2pp6 2pp6 1 188,2pp7 2pp7 1 18a,2ppd 2ppd 1 17s,2ppe 2ppe 1 17w,2ppf 2ppf 1 17z",
     "2pph 2pph 1 18o,2ppi 2ppi 1 182,2ppj 2ppj 1 17x,2ppk 2ppk 1 187,2ppl 2ppl 1 18q",
     "2ppn 2ppp 1 18k,2ppq 2ppq 1 183,2ppr 2ppr 1 189,2pps 2pps 1 18h,2ppt 2ppt 1 185",
     "2ppu 2ppu 1 18i,2ppv 2ppv 1 181,2ppw 2ppw 1 184,2ppx 2ppy 1 17u,2ppz 2ppz 1 17y",
     "2pq0 2pq0 1 180,2pq1 2pq1 1 186,2pq2 2pq2 1 188,2pq3 2pq3 1 18a,2q7f 2q7f 1 2r",
     "2q7g 2q7g 1 36,2q7k 2q89 1 2p,2qde 2qde 1 9md,2qds 2qds 1 jez,2qdt 2qdt 1 i1j",
     "2qdu 2qdu 1 gjw,2qdv 2qdv 1 9mv,2qdw 2qdw 1 fik,2qdx 2qdx 1 hlm,2qdy 2qdy 1 r8j",
     "2qdz 2qdz 1 hm1,2qe0 2qe0 1 fj8,2qe1 2qe1 1 k68,2qe2 2qe2 1 mch,2qe3 2qe3 1 k2h",
     "2qe4 2qe4 1 g99,2qe5 2qe5 1 ivg,2qe6 2qe6 1 g3x,2qe7 2qe7 1 k34,2qe8 2qe8 1 g7x",
     "2qe9 2qe9 1 oqq,2qea 2qea 1 n4v,2qeb 2qeb 1 rs9,2qec 2qec 1 hkg,2qed 2qed 1 gmx",
     "2qee 2qee 1 lxw,2qef 2qef 1 jh1,2qeg 2qeg 1 jmd,2qeh 2qeh 1 feo,2qei 2qei 1 fex",
     "2qej 2qej 1 si2,2qek 2qek 1 ijq,2qel 2qel 1 ffx,2qem 2qem 1 gkz,2qen 2qen 1 jk7",
     "2qeo 2qeo 1 rxs,2qep 2qep 1 jf7,2qeq 2qeq 1 o01,2qer 2qer 1 o6y,2qes 2qes 1 glk",
     "2qet 2qet 1 lts,2qeu 2qeu 1 kcp,2qev 2qev 1 kco,2qew 2qew 1 n5f,2qex 2qex 1 gaa",
     "2qey 2qey 1 gxi,2qez 2qez 1 sp9,2qfk 2qfk 1 ivr,2qfl 2qfl 1 gkv,2sc0 2sc9 1 1c"]

/-- Runs of characters with one image, written the same way. -/
def constantTable : List String :=
  ["6bk 6bu 1 w,6j0 6j2 1 2w,6j4 6j5 1 2x,6j6 6j7 1 30,6jg 6jh 1 36,6jz 6k0 1 2t",
     "6kd 6ke 1 qb,6kl 6km 1 2s,1dn4 1dn5 1 19t,1dn6 1dn9 1 1a3,1dna 1dnd 1 1a6",
     "1dne 1dnh 1 1a8,1dni 1dnl 1 1a2,1dnm 1dnp 1 1a7,1dnq 1dnt 1 1a1,1dnu 1dnx 1 1b8",
     "1dny 1do1 1 1ba,1do2 1do5 1 1ac,1do6 1do9 1 1ab,1doa 1dod 1 1ae,1doe 1doh 1 1af",
     "1doi 1doj 1 1al,1dok 1dol 1 1ak,1dom 1don 1 1am,1doo 1dop 1 1ag,1doq 1dor 1 1aw",
     "1dos 1dot 1 1ap,1dou 1dox 1 1bd,1doy 1dp1 1 1bj,1dp2 1dp5 1 1bn,1dp6 1dp9 1 1bl",
     "1dpa 1dpb 1 1bu,1dpc 1dpf 1 1bv,1dpg 1dph 1 1c0,1dpi 1dpl 1 1c1,1dpm 1dpp 1 1by",
     "1dpq 1dpr 1 1ci,1dps 1dpt 1 1cj,1dqr 1dqu 1 1bh,1dqv 1dqw 1 1c7,1dqx 1dqy 1 1c6",
     "1dqz 1dr0 1 1c8,1dr2 1dr3 1 1cb,1dr4 1dr5 1 1c5,1dr6 1dr7 1 1c9,1dr8 1drb 1 1cg",
     "1drc 1drd 1 18p,1drw 1drz 1 1cc,1e7n 1e7o 1 2n,1e8d 1e8f 1 2n,1ea2 1ea4 1 17q",
     "1ea5 1ea6 1 17r,1ea7 1eaa 1 17s,1eab 1eac 1 17t,1ead 1eag 1 17u,1eah 1eak 1 17v",
     "1eal 1eao 1 17w,1eap 1eas 1 17x,1eat 1eaw 1 17y,1eax 1eay 1 17z,1eaz 1eb0 1 180",
     "1eb1 1eb2 1 181,1eb3 1eb4 1 182,1eb5 1eb8 1 183,1eb9 1ebc 1 184,1ebd 1ebg 1 185",
     "1ebh 1ebk 1 186,1ebl 1ebo 1 187,1ebp 1ebs 1 188,1ebt 1ebw 1 189,1ebx 1ec0 1 18a",
     "1ec1 1ec4 1 18h,1ec5 1ec8 1 18i,1ec9 1ecc 1 18j,1ecd 1ecg 1 18k,1ech 1eck 1 18l",
     "1ecl 1eco 1 18m,1ecp 1ecs 1 18n,1ect 1ecu 1 18o,1ecv 1ecw 1 18p,1ecx 1ed0 1 18q",
     "2l03 2l04 1 qr,2l1p 2l1q 1 qr,2l3b 2l3c 1 qr,2l4x 2l4y 1 qr,2l6j 2l6k 1 qr",
     "2l6y 2l6z 1 rh"]

/-- Characters with an image of two or more characters, followed by that image. -/
def longTable : List String :=
  ["4o w lk,4v w lg,50 w ld,54 w mf,58 1d 6dg 1g,59 1d 6dg 1e,5a 1f 6dg 1g,8g 2x lj,8i 2x 2y",
     "8j 2x 2y,8v 30 53,8w 30 53,95 jg 32,ck 2s am,cl 2s am,cm 2s am,cn 30 2y,co 30 2y",
     "cp 30 2y,cq 32 2y,cr 32 2y,cs 32 2y,dt 2s 3e,du 2s 3e,dv 2s 3e,k8 w li,k9 w lj,ka w lm",
     "kb w mg,kc w lf,kd w ln,oq w qh,p0 w ld,p1 w lk ld,13b 12d 136,19x 17r 19w,19y 18o 19w",
     "19z 1c7 19w,1a0 18q 19w,2sz 2tp 2sy,2wj 2x9 2wi,2xo 2wb 2vt,2xp 2wb 2w1,31z 33m 31t 328",
     "321 33n 31t 328,61m 2p ji,680 64g qh,681 64h qh,682 64i qh,683 64j qh,684 64k qh",
     "685 64l qh,686 64m qh,687 64n qh,688 64g qh,689 64h qh,68a 64i qh,68b 64j qh,68c 64k qh",
     "68d 64l qh,68e 64m qh,68f 64n qh,68g 65c qh,68h 65d qh,68i 65e qh,68j 65f qh,68k 65g qh",
     "68l 65h qh,68m 65i qh,68n 65j qh,68o 65c qh,68p 65d qh,68q 65e qh,68r 65f qh,68s 65g qh",
     "68t 65h qh,68u 65i qh,68v 65j qh,68w 674 qh,68x 675 qh,68y 676 qh,68z 677 qh,690 678 qh",
     "691 679 qh,692 67a qh,693 67b qh,694 674 qh,695 675 qh,696 676 qh,697 677 qh,698 678 qh",
     "699 679 qh,69a 67a qh,69b 67b qh,69e 67k qh,69f q9 qh,69g q4 qh,69j 69i qh,69o q9 qh",
     "69p w lv,69r w lv,69s w n6,69t w lk n6,69u 67o qh,69v qf qh,69w q6 qh,69z 69y qh",
     "6a4 qf qh,6a5 w lv lc,6a6 w lv ld,6a7 w lv n6,6al w lw lc,6am w lw ld,6an w lw n6",
     "6b1 w lk lc,6b2 w lk ld,6b6 67w qh,6b7 qx qh,6b8 r2 qh,6bb 6ba qh,6bg qx qh,6bh w ld",
     "6bi w lw,6c7 w mr,6cz 6cy 6cy,6d0 6cy 6cy 6cy,6d2 6d1 6d1,6d3 6d1 6d1 6d1,6d8 x x",
     "6da w lh,6dj 1r 1r,6dk 1r x,6dl x 1r,6dz 6cy 6cy 6cy 6cy,6g8 36 37,6io 2p 1b 2r",
     "6ip 2p 1b 37,6ir 4w 2r,6it 2r 1b 33,6iu 2r 1b 39,6ix 4w 2u,6ja 32 33,6jk 37 31",
     "6jl 38 2t 30,6jm 38 31,6kb 2u 2p 3c,6kw 1d 6dg 1j,6kx 1d 6dg 1l,6ky 1d 6dg 1d 1c",
     "6kz 1d 6dg 1f,6l0 1e 6dg 1f,6l1 1d 6dg 1h,6l2 1e 6dg 1h,6l3 1f 6dg 1h,6l4 1g 6dg 1h",
     "6l5 1d 6dg 1i,6l6 1h 6dg 1i,6l7 1d 6dg 1k,6l8 1f 6dg 1k,6l9 1h 6dg 1k,6la 1j 6dg 1k",
     "6lb 1d 6dg,6ld 2x 2x,6le 2x 2x 2x,6lf 2x 3a,6lh 3a 2x,6li 3a 2x 2x,6lj 3a 2x 2x 2x",
     "6lk 2x 3c,6lm 3c 2x,6ln 3c 2x 2x,6lt 2x 2x,6lu 2x 2x 2x,6lv 2x 3a,6lx 3a 2x,6ly 3a 2x 2x",
     "6lz 3a 2x 2x 2x,6m0 2x 3c,6m2 3c 2x,6m3 3c 2x 2x,6mh 1c 6dg 1f,6r0 6qz 6qz",
     "6r1 6qz 6qz 6qz,6r3 6r2 6r2,6r4 6r2 6r2 6r2,76x 1d 1c,76y 1d 1d,76z 1d 1e,770 1d 1f",
     "771 1d 1g,772 1d 1h,773 1d 1i,774 1d 1j,775 1d 1k,776 1d 1l,777 1e 1c,778 14 1d 15",
     "779 14 1e 15,77a 14 1f 15,77b 14 1g 15,77c 14 1h 15,77d 14 1i 15,77e 14 1j 15",
     "77f 14 1k 15,77g 14 1l 15,77h 14 1d 1c 15,77i 14 1d 1d 15,77j 14 1d 1e 15",
     "77k 14 1d 1f 15,77l 14 1d 1g 15,77m 14 1d 1h 15,77n 14 1d 1i 15,77o 14 1d 1j 15",
     "77p 14 1d 1k 15,77q 14 1d 1l 15,77r 14 1e 1c 15,78c 14 2p 15,78d 14 2q 15,78e 14 2r 15",
     "78f 14 2s 15,78g 14 2t 15,78h 14 2u 15,78i 14 2v 15,78j 14 2w 15,78k 14 2x 15",
     "78l 14 2y 15,78m 14 2z 15,78n 14 30 15,78o 14 31 15,78p 14 32 15,78q 14 33 15",
     "78r 14 34 15,78s 14 35 15,78t 14 36 15,78u 14 37 15,78v 14 38 15,78w 14 39 15",
     "78x 14 3a 15,78y 14 3b 15,78z 14 3c 15,790 14 3d 15,791 14 3e 15,8b0 6qz 6qz 6qz 6qz",
     "8dw 1m 1m 1p,8dx 1p 1p,8dy 1p 1p 1p,9ln w 9ll,9lo w 9lm,9lr 9l4 9l6,9of 9mb 9mw",
     "9vk 14 3cw 15,9vl 14 3cy 15,9vm 14 3cz 15,9vn 14 3d1 15,9vo 14 3d2 15,9vp 14 3d3 15",
     "9vq 14 3d5 15,9vr 14 3d7 15,9vs 14 3d8 15,9vt 14 3da 15,9vu 14 3db 15,9vv 14 3dc 15",
     "9vw 14 3dd 15,9vx 14 3de 15,9vy 14 xz4 15,9vz 14 yvs 15,9w0 14 zc4 15,9w1 14 108s 15",
     "9w2 14 10p4 15,9w3 14 115g 15,9w4 14 1224 15,9w5 14 12ys 15,9w6 14 13f4 15",
     "9w7 14 14bs 15,9w8 14 14s4 15,9w9 14 158g 15,9wa 14 15os 15,9wb 14 1654 15",
     "9wc 14 13p8 15,9wd 14 1350 13ic 15,9we 14 1350 16f8 15,9wg 14 feo 15,9wh 14 fik 15",
     "9wi 14 fex 15,9wj 14 h5n 15,9wk 14 fis 15,9wl 14 g31 15,9wm 14 fer 15,9wn 14 g2z 15",
     "9wo 14 fh9 15,9wp 14 gg1 15,9wq 14 kco 15,9wr 14 m7f 15,9ws 14 ldg 15,9wt 14 kdk 15",
     "9wu 14 ssx 15,9wv 14 h7j 15,9ww 14 k4l 15,9wx 14 kkq 15,9wy 14 kcp 15,9wz 14 ny6 15",
     "9x0 14 glp 15,9x1 14 mm1 15,9x2 14 rs1 15,9x3 14 nz1 15,9x4 14 gc4 15,9x5 14 fkz 15",
     "9x6 14 gos 15,9x7 14 i1y 15,9x8 14 nhf 15,9x9 14 flt 15,9xa 14 rt3 15,9xb 14 ggk 15",
     "9xc 14 nzh 15,9xd 14 fm9 15,9xe 14 pnu 15,9xf 14 po3 15,9xs 34 38 2t,9xt 1e 1d,9xu 1e 1e",
     "9xv 1e 1f,9xw 1e 1g,9xx 1e 1h,9xy 1e 1i,9xz 1e 1j,9y0 1e 1k,9y1 1e 1l,9y2 1f 1c",
     "9y3 1f 1d,9y4 1f 1e,9y5 1f 1f,9y6 1f 1g,9y7 1f 1h,9z0 14c8 y5c,9z1 13p8 13dk,a0h 1f 1i",
     "a0i 1f 1j,a0j 1f 1k,a0k 1f 1l,a0l 1g 1c,a0m 1g 1d,a0n 1g 1e,a0o 1g 1f,a0p 1g 1g",
     "a0q 1g 1h,a0r 1g 1i,a0s 1g 1j,a0t 1g 1k,a0u 1g 1l,a0v 1h 1c,a0w 1d kco,a0x 1e kco",
     "a0y 1f kco,a0z 1g kco,a10 1h kco,a11 1i kco,a12 1j kco,a13 1k kco,a14 1l kco",
     "a15 1d 1c kco,a16 1d 1d kco,a17 1d 1e kco,a18 2w 2v,a19 2t 36 2v,a1a 2t 3a,a1b 30 38 2s",
     "a2n fl0 gp8,a2o 9lu 9n5 9oc 9mw,a2p 9lu 9nv 9n9 9lt,a2q 9lu 9o3 9ne 9lu,a2r 9lu 9oc 9nv",
     "a2s 9lw 9mz 9o3 9m8,a2t 9lw 9o3 9mp,a2u 9ly 9m1 9o3,a2v 9m0 9mh 9m7 9oc 9mx",
     "a2w 9m0 9oc 9m3 9oc,a2x 9m2 9o3 9mh,a2y 9m2 9oc 9nk,a2z 9m3 9lw 9nu,a30 9m3 9nt 9mr 9mw",
     "a31 9m3 9nx 9nu 9oc,a32 9m4 9nx 9o3,a33 9m4 9o3 9ni,a34 9m6 9m4,a35 9m6 9mz 9oc",
     "a36 9m5 9np 9nu 9oc,a37 9m6 9nv 9mo 9oc,a38 9m5 9nx,a39 9m5 9nx 9m8 9nt 9nk",
     "a3a 9m5 9nx 9nl 9oc 9mw 9nv,a3b 9m5 9nx 9nz 9mr 9mw,a3c 9m8 9nt 9nk",
     "a3d 9m8 9nt 9nk 9mw 9o3,a3e 9m7 9nv 9mk 9lw 9nx,a3f 9m7 9nx 9oc 9n1,a3g 9m9 9oc 9mh",
     "a3h 9mb 9nv 9my,a3i 9mb 9oc 9nh,a3j 9md 9lw 9m7 9nv,a3k 9md 9o3 9mp 9oc 9nk",
     "a3l 9mf 9nu 9o3 9m8,a3m 9mj 9o3 9mp,a3n 9mj 9o3 9mw,a3o 9mo 9oc 9mh,a3p 9mv 9mf",
     "a3q 9mx 9nv,a3r 9mw 9o3,a3s 9my 9n2,a3t 9n2 9mr 9mw,a3u 9n3 9lw 9ms",
     "a3v 9n5 9oc 9mj 9o3 9mw,a3w 9n5 9oc 9ms,a3x 9n4 9oc 9nw 9nv,a3y 9n8 9lu 9mh 9mw 9nv",
     "a3z 9n8 9m7 9nv,a40 9n8 9mb,a41 9n7 9nv,a42 9n9 9lt 9nt 9mr 9mx,a43 9n9 9lv 9oc 9mw",
     "a44 9na 9mr 9mf 9lz 9nv,a45 9n9 9nt 9o3,a46 9nc 9m7 9mn 9oc 9nv,a47 9ne 9ml",
     "a48 9ne 9mz 9n6,a49 9nc 9nv 9ms,a4a 9ne 9o3 9mh,a4b 9ne 9oc 9mg,a4c 9nd 9oc 9mn",
     "a4d 9nh 9lw 9o3 9mw,a4e 9ng 9nv 9mw,a4f 9nf 9o3,a4g 9nh 9o3 9mx,a4h 9nf 9oc 9nv",
     "a4i 9nf 9oc 9o3,a4j 9ni 9lw 9m7 9nx,a4k 9ni 9lw 9nv,a4l 9ni 9mr 9n3,a4m 9ni 9nv 9m7",
     "a4n 9ni 9o3 9mf 9nr 9o3,a4o 9nj 9m7 9nx 9o3,a4p 9nj 9nu,a4q 9nj 9nu 9n4 9oc 9nv",
     "a4r 9nl 9m4,a4s 9nl 9m4 9mw 9o3,a4t 9nl 9oc 9mw 9nv,a4u 9no 9oc 9mx,a4v 9no 9oc 9nv",
     "a4w 9nq 9lu 9o3,a4x 9nu 9mr 9mw 9nv,a4y 9nu 9nt,a4z 9nv 9n8 9oc,a50 9nv 9oc 9na 9nv",
     "a51 9nw 9nk,a52 9nw 9o3 9mw 9ma 9o3,a53 9nz 9mr 9mw,a54 1c m9l,a55 1d m9l,a56 1e m9l",
     "a57 1f m9l,a58 1g m9l,a59 1h m9l,a5a 1i m9l,a5b 1j m9l,a5c 1k m9l,a5d 1l m9l",
     "a5e 1d 1c m9l,a5f 1d 1d m9l,a5g 1d 1e m9l,a5h 1d 1f m9l,a5i 1d 1g m9l,a5j 1d 1h m9l",
     "a5k 1d 1i m9l,a5l 1d 1j m9l,a5m 1d 1k m9l,a5n 1d 1l m9l,a5o 1e 1c m9l,a5p 1e 1d m9l",
     "a5q 1e 1e m9l,a5r 1e 1f m9l,a5s 1e 1g m9l,a5t 2w 34 2p,a5u 2s 2p,a5v 2p 39,a5w 2q 2p 36",
     "a5x 33 3a,a5y 34 2r,a5z 2s 31,a60 2s 31 1e,a61 2s 31 1f,a62 2x 39,a63 inn jdc",
     "a64 k6l gp8,a65 hlz l7n,a66 k5q lh7,a67 kkq irz fmi ny6,a68 34 2p,a69 32 2p,a6a qk 2p",
     "a6b 31 2p,a6c 2z 2p,a6d 2z 2q,a6e 31 2q,a6f 2v 2q,a6g 2r 2p 30,a6h 2z 2r 2p 30,a6i 34 2u",
     "a6j 32 2u,a6k qk 2u,a6l qk 2v,a6m 31 2v,a6n 2z 2v,a6o 2w 3e,a6p 2z 2w 3e,a6q 31 2w 3e",
     "a6r 2v 2w 3e,a6s 38 2w 3e,a6t qk 30,a6u 31 30,a6v 2s 30,a6w 2z 30,a6x 2u 31,a6y 32 31",
     "a6z qk 31,a70 31 31,a71 2r 31,a72 2z 31,a73 31 31 1e,a74 2r 31 1e,a75 31 1e,a76 2z 31 1e",
     "a77 31 31 1f,a78 2r 31 1f,a79 31 1f,a7a 2z 31 1f,a7b 31 6qd 37,a7c 31 6qd 37 1e",
     "a7d 34 2p,a7e 2z 34 2p,a7f 31 34 2p,a7g 2v 34 2p,a7h 36 2p 2s,a7i 36 2p 2s 6qd 37",
     "a7j 36 2p 2s 6qd 37 1e,a7k 34 37,a7l 32 37,a7m qk 37,a7n 31 37,a7o 34 3a,a7p 32 3a",
     "a7q qk 3a,a7r 31 3a,a7s 2z 3a,a7t 31 3a,a7u 34 3b,a7v 32 3b,a7w qk 3b,a7x 31 3b",
     "a7y 2z 3b,a7z 31 3b,a80 2z qx,a81 31 qx,a83 2q 35,a84 2r 2r,a85 2r 2s,a86 2r 6qd 2z 2v",
     "a88 2s 2q,a89 2v 3d,a8a 2w 2p,a8b 2w 34,a8c 2x 32,a8d 2z 2z,a8e 2z 31,a8f 2z 38",
     "a8g 30 31,a8h 30 32,a8i 30 33 2v,a8j 30 3c,a8k 31 2q,a8l 31 2x 30,a8m 31 33 30,a8n 34 2w",
     "a8p 34 34 31,a8q 34 36,a8r 37 36,a8s 37 3a,a8t 3b 2q,a8u 3a 6qd 31,a8v 2p 6qd 31",
     "a8w 1d k4l,a8x 1e k4l,a8y 1f k4l,a8z 1g k4l,a90 1h k4l,a91 1i k4l,a92 1j k4l,a93 1k k4l",
     "a94 1l k4l,a95 1d 1c k4l,a96 1d 1d k4l,a97 1d 1e k4l,a98 1d 1f k4l,a99 1d 1g k4l",
     "a9a 1d 1h k4l,a9b 1d 1i k4l,a9c 1d 1j k4l,a9d 1d 1k k4l,a9e 1d 1l k4l,a9f 1e 1c k4l",
     "a9g 1e 1d k4l,a9h 1e 1e k4l,a9i 1e 1f k4l,a9j 1e 1g k4l,a9k 1e 1h k4l,a9l 1e 1i k4l",
     "a9m 1e 1j k4l,a9n 1e 1k k4l,a9o 1e 1l k4l,a9p 1f 1c k4l,a9q 1f 1d k4l,a9r 2v 2p 30",
     "1dkw 2u 2u,1dkx 2u 2x,1dky 2u 30,1dkz 2u 2u 2x,1dl0 2u 2u 30,1dl1 37 38,1dl2 37 38",
     "1dlf 12s 12u,1dlg 12s 12d,1dlh 12s 12j,1dli 132 12u,1dlj 12s 12l,1dn3 15c 15o",
     "1dr1 1c7 19w,1dre 17q 17r,1drf 17q 17r,1drg 17q 1cl,1drh 17q 1cl,1dri 17q 18o",
     "1drj 17q 18o,1drk 17q 1c7,1drl 17q 1c7,1drm 17q 1c6,1drn 17q 1c6,1dro 17q 1c8",
     "1drp 17q 1c8,1drq 17q 1cg,1drr 17q 1cg,1drs 17q 1cg,1drt 17q 18p,1dru 17q 18p",
     "1drv 17q 18p,1ds0 17q 17w,1ds1 17q 17x,1ds2 17q 18l,1ds3 17q 18p,1ds4 17q 18q",
     "1ds5 17s 17w,1ds6 17s 17x,1ds7 17s 17y,1ds8 17s 18l,1ds9 17s 18p,1dsa 17s 18q",
     "1dsb 17u 17w,1dsc 17u 17x,1dsd 17u 17y,1dse 17u 18l,1dsf 17u 18p,1dsg 17u 18q",
     "1dsh 17v 17w,1dsi 17v 18l,1dsj 17v 18p,1dsk 17v 18q,1dsl 17w 17x,1dsm 17w 18l",
     "1dsn 17x 17w,1dso 17x 18l,1dsp 17y 17w,1dsq 17y 17x,1dsr 17y 18l,1dss 183 17w",
     "1dst 183 17x,1dsu 183 17y,1dsv 183 18l,1dsw 185 17x,1dsx 185 18l,1dsy 186 17w",
     "1dsz 186 17x,1dt0 186 17y,1dt1 186 18l,1dt2 187 17x,1dt3 187 18l,1dt4 188 18l",
     "1dt5 189 17w,1dt6 189 18l,1dt7 18a 17w,1dt8 18a 18l,1dt9 18h 17w,1dta 18h 17x",
     "1dtb 18h 17y,1dtc 18h 18l,1dtd 18h 18p,1dte 18h 18q,1dtf 18i 17x,1dtg 18i 18l",
     "1dth 18i 18p,1dti 18i 18q,1dtj 18j 17r,1dtk 18j 17w,1dtl 18j 17x,1dtm 18j 17y",
     "1dtn 18j 18k,1dto 18j 18l,1dtp 18j 18p,1dtq 18j 18q,1dtr 18k 17w,1dts 18k 17x",
     "1dtt 18k 17y,1dtu 18k 18l,1dtv 18k 18p,1dtw 18k 18q,1dtx 18l 17w,1dty 18l 17x",
     "1dtz 18l 17y,1du0 18l 18l,1du1 18l 18p,1du2 18l 18q,1du3 18m 17w,1du4 18m 17x",
     "1du5 18m 17y,1du6 18m 18l,1du7 18m 18p,1du8 18m 18q,1du9 18n 17w,1dua 18n 18l",
     "1dub 18n 18p,1duc 18n 18q,1dud 18q 17w,1due 18q 17x,1duf 18q 17y,1dug 18q 18l",
     "1duh 18q 18p,1dui 18q 18q,1duj 180 19s,1duk 181 19s,1dul 18p 19s,1dum w 18s 18x",
     "1dun w 18t 18x,1duo w 18u 18x,1dup w 18v 18x,1duq w 18w 18x,1dur w 18x 19s,1dus 17q 181",
     "1dut 17q 182,1duu 17q 18l,1duv 17q 18m,1duw 17q 18p,1dux 17q 18q,1duy 17s 181",
     "1duz 17s 182,1dv0 17s 18l,1dv1 17s 18m,1dv2 17s 18p,1dv3 17s 18q,1dv4 17u 181",
     "1dv5 17u 182,1dv6 17u 18l,1dv7 17u 18m,1dv8 17u 18p,1dv9 17u 18q,1dva 17v 181",
     "1dvb 17v 182,1dvc 17v 18l,1dvd 17v 18m,1dve 17v 18p,1dvf 17v 18q,1dvg 18h 18p",
     "1dvh 18h 18q,1dvi 18i 18p,1dvj 18i 18q,1dvk 18j 17r,1dvl 18j 18k,1dvm 18j 18l",
     "1dvn 18j 18p,1dvo 18j 18q,1dvp 18k 18l,1dvq 18k 18p,1dvr 18k 18q,1dvs 18l 17r",
     "1dvt 18l 18l,1dvu 18m 181,1dvv 18m 182,1dvw 18m 18l,1dvx 18m 18m,1dvy 18m 18p",
     "1dvz 18m 18q,1dw0 18p 19s,1dw1 18q 181,1dw2 18q 182,1dw3 18q 18l,1dw4 18q 18m",
     "1dw5 18q 18p,1dw6 18q 18q,1dw7 17q 17w,1dw8 17q 17x,1dw9 17q 17y,1dwa 17q 18l",
     "1dwb 17q 18n,1dwc 17s 17w,1dwd 17s 17x,1dwe 17s 17y,1dwf 17s 18l,1dwg 17s 18n",
     "1dwh 17u 17w,1dwi 17u 17x,1dwj 17u 17y,1dwk 17u 18l,1dwl 17u 18n,1dwm 17v 18l",
     "1dwn 17w 17x,1dwo 17w 18l,1dwp 17x 17w,1dwq 17x 18l,1dwr 17y 17w,1dws 17y 18l",
     "1dwt 183 17w,1dwu 183 17x,1dwv 183 17y,1dww 183 18l,1dwx 185 17x,1dwy 185 17y",
     "1dwz 185 18l,1dx0 186 17w,1dx1 186 17x,1dx2 186 17y,1dx3 186 18l,1dx4 187 17x",
     "1dx5 188 18l,1dx6 189 17w,1dx7 189 18l,1dx8 18a 17w,1dx9 18a 18l,1dxa 18h 17w",
     "1dxb 18h 17x,1dxc 18h 17y,1dxd 18h 18l,1dxe 18i 17x,1dxf 18i 18l,1dxg 18j 17w",
     "1dxh 18j 17x,1dxi 18j 17y,1dxj 18j 18k,1dxk 18j 18l,1dxl 18k 17w,1dxm 18k 17x",
     "1dxn 18k 17y,1dxo 18k 18l,1dxp 18k 18n,1dxq 18l 17w,1dxr 18l 17x,1dxs 18l 17y",
     "1dxt 18l 18l,1dxu 18m 17w,1dxv 18m 17x,1dxw 18m 17y,1dxx 18m 18l,1dxy 18m 18n",
     "1dxz 18n 17w,1dy0 18n 18l,1dy1 18n 19s,1dy2 18q 17w,1dy3 18q 17x,1dy4 18q 17y",
     "1dy5 18q 18l,1dy6 18q 18n,1dy7 17q 18l,1dy8 17q 18n,1dy9 17s 18l,1dya 17s 18n",
     "1dyb 17u 18l,1dyc 17u 18n,1dyd 17v 18l,1dye 17v 18n,1dyf 183 18l,1dyg 183 18n",
     "1dyh 184 18l,1dyi 184 18n,1dyj 18j 18k,1dyk 18j 18l,1dyl 18k 18l,1dym 18m 18l",
     "1dyn 18m 18n,1dyo 18q 18l,1dyp 18q 18n,1dyq 18g 18u 18x,1dyr 18g 18v 18x",
     "1dys 18g 18w 18x,1dyt 187 18p,1dyu 187 18q,1dyv 189 18p,1dyw 189 18q,1dyx 18a 18p",
     "1dyy 18a 18q,1dyz 183 18p,1dz0 183 18q,1dz1 184 18p,1dz2 184 18q,1dz3 17x 18p",
     "1dz4 17x 18q,1dz5 17w 18p,1dz6 17w 18q,1dz7 17y 18p,1dz8 17y 18q,1dz9 185 18p",
     "1dza 185 18q,1dzb 186 18p,1dzc 186 18q,1dzd 184 17w,1dze 184 17x,1dzf 184 17y",
     "1dzg 184 18l,1dzh 184 181,1dzi 183 181,1dzj 185 181,1dzk 186 181,1dzl 187 18p",
     "1dzm 187 18q,1dzn 189 18p,1dzo 189 18q,1dzp 18a 18p,1dzq 18a 18q,1dzr 183 18p",
     "1dzs 183 18q,1dzt 184 18p,1dzu 184 18q,1dzv 17x 18p,1dzw 17x 18q,1dzx 17w 18p",
     "1dzy 17w 18q,1dzz 17y 18p,1e00 17y 18q,1e01 185 18p,1e02 185 18q,1e03 186 18p",
     "1e04 186 18q,1e05 184 17w,1e06 184 17x,1e07 184 17y,1e08 184 18l,1e09 184 181",
     "1e0a 183 181,1e0b 185 181,1e0c 186 181,1e0d 184 17w,1e0e 184 17x,1e0f 184 17y",
     "1e0g 184 18l,1e0h 183 18n,1e0i 184 18n,1e0j 187 18l,1e0k 183 17w,1e0l 183 17x",
     "1e0m 183 17y,1e0n 184 17w,1e0o 184 17x,1e0p 184 17y,1e0q 187 18l,1e0r 188 18l",
     "1e0s 17r 18r,1e0t 17r 18r,1e1c 17u 17w 18l,1e1d 17u 17x 17w,1e1e 17u 17x 17w",
     "1e1f 17u 17x 18l,1e1g 17u 17y 18l,1e1h 17u 18l 17w,1e1i 17u 18l 17x,1e1j 17u 18l 17y",
     "1e1k 17w 18l 17x,1e1l 17w 18l 17x,1e1m 17x 18l 18q,1e1n 17x 18l 18p,1e1o 183 17x 17w",
     "1e1p 183 17w 17x,1e1q 183 17w 18p,1e1r 183 18l 17x,1e1s 183 18l 17x,1e1t 183 18l 17w",
     "1e1u 183 18l 18l,1e1v 183 18l 18l,1e1w 185 17x 17x,1e1x 185 17x 17x,1e1y 185 18l 18l",
     "1e1z 184 17x 18l,1e20 184 17x 18l,1e21 184 17w 18q,1e22 184 18l 17y,1e23 184 18l 17y",
     "1e24 184 18l 18l,1e25 184 18l 18l,1e26 186 17x 18p,1e27 186 17y 18l,1e28 186 17y 18l",
     "1e29 187 18l 17x,1e2a 187 18l 17x,1e2b 187 18l 18l,1e2c 187 18l 18q,1e2d 189 17w 18l",
     "1e2e 189 18l 18l,1e2f 189 18l 18l,1e2g 189 18l 18p,1e2h 18a 18l 18l,1e2i 18a 18l 18q",
     "1e2j 18a 18l 18p,1e2k 18h 17y 18l,1e2l 18h 17y 18l,1e2m 18i 18l 17x,1e2n 18i 18l 18l",
     "1e2o 18k 17x 18l,1e2p 18k 17x 18q,1e2q 18k 17x 18p,1e2r 18k 17w 17w,1e2s 18k 17w 17w",
     "1e2t 18k 17y 18l,1e2u 18k 17y 18l,1e2v 18k 18l 17x,1e2w 18k 18l 17x,1e2x 18l 17x 17w",
     "1e2y 18l 17x 18l,1e2z 18l 17x 18q,1e30 18l 17w 17x,1e31 18l 17w 18l,1e32 18l 17y 17w",
     "1e33 18l 17y 18l,1e36 18l 17w 17y,1e37 18n 18l 17w,1e38 18n 18l 18l,1e39 18m 17x 18l",
     "1e3a 18m 17x 18p,1e3b 18m 17w 18l,1e3c 18m 17w 18l,1e3d 18m 17w 18p,1e3e 18m 18l 18q",
     "1e3f 18m 18l 18p,1e3g 18q 18l 18l,1e3h 18q 18l 18l,1e3i 17s 17y 18q,1e3j 17u 17w 18q",
     "1e3k 17u 17w 18p,1e3l 17u 17y 18q,1e3m 17u 17y 18p,1e3n 17u 18l 18q,1e3o 17u 18l 18p",
     "1e3p 17w 18l 18q,1e3q 17w 17x 18p,1e3r 17w 18l 18p,1e3s 183 17y 18p,1e3t 185 17x 18q",
     "1e3u 184 17x 18q,1e3v 186 17x 18q,1e3w 18k 17w 18q,1e3x 18k 18l 18q,1e3y 18q 17x 18q",
     "1e3z 18q 17w 18q,1e40 18q 18l 18q,1e41 18l 18l 18q,1e42 18i 18l 18q,1e43 18m 17x 18q",
     "1e44 18i 18l 17x,1e45 18k 17x 18l,1e46 189 18l 18q,1e47 18j 18l 18q,1e48 18m 17w 17x",
     "1e49 18l 17y 18q,1e4a 18k 17w 18l,1e4b 18j 18l 18l,1e4c 18k 17w 18l,1e4d 18m 17w 17x",
     "1e4e 17w 17x 18q,1e4f 17x 17w 18q,1e4g 18l 17w 18q,1e4h 18h 18l 18q,1e4i 17s 17x 18q",
     "1e4j 18j 18l 18l,1e4k 189 17w 18l,1e4l 185 18l 18l,1e4m 183 17y 18q,1e4n 18m 17w 18q",
     "1e5s 185 18k 1ci,1e5t 18i 18k 1ci,1e5u 17r 18k 18k 18n,1e5v 17r 18j 17s 181",
     "1e5w 18l 17x 18l 17z,1e5x 185 18k 189 18l,1e5y 181 183 18o 18k,1e5z 189 18k 18q 18n",
     "1e60 18o 183 18k 18l,1e61 185 18k 18p",
     "1e62 185 18k 18p w 17r 18k 18k 18n w 189 18k 18q 18n w 18o 183 18k 18l",
     "1e63 17w 18k w 17w 18k 17r 18k 18n,1e64 181 1cc 17r 18k,1e89 w lh,1e8a w lh,1e8b w lh",
     "1e8c w lh,1e9c w 18r,1e9d 18g 18r,1e9e w 18s,1e9g w 18t,1e9i w 18u,1e9j 18g 18u",
     "1e9k w 18v,1e9l 18g 18v,1e9m w 18w,1e9n 18g 18w,1e9o w 18x,1e9p 18g 18x,1e9q w 18y",
     "1e9r 18g 18y,1ed1 18k 17m,1ed2 18k 17m,1ed3 18k 17n,1ed4 18k 17n,1ed5 18k 17p",
     "1ed6 18k 17p,1ed7 18k 17r,1ed8 18k 17r,1ejn w lg,2q69 1c 18,2q6a 1d 18,2q6b 1e 18",
     "2q6c 1f 18,2q6d 1g 18,2q6e 1h 18,2q6f 1i 18,2q6g 1j 18,2q6h 1k 18,2q6i 1l 18",
     "2q6o 14 2p 15,2q6p 14 2q 15,2q6q 14 2r 15,2q6r 14 2s 15,2q6s 14 2t 15,2q6t 14 2u 15",
     "2q6u 14 2v 15,2q6v 14 2w 15,2q6w 14 2x 15,2q6x 14 2y 15,2q6y 14 2z 15,2q6z 14 30 15",
     "2q70 14 31 15,2q71 14 32 15,2q72 14 33 15,2q73 14 34 15,2q74 14 35 15,2q75 14 36 15",
     "2q76 14 37 15,2q77 14 38 15,2q78 14 39 15,2q79 14 3a 15,2q7a 14 3b 15,2q7b 14 3c 15",
     "2q7c 14 3d 15,2q7d 14 3e 15,2q7e 9hw 37 9hx,2q7h 2r 2s,2q7i 3b 3e,2q8a 2w 3a,2q8b 31 3a",
     "2q8c 37 2s,2q8d 37 37,2q8e 34 34 3a,2q8f 3b 2r,2q96 31 2r,2q97 31 2s,2q98 31 36",
     "2qa8 2s 2y,2qdc 9kr 9jf,2qdd 9mb 9mb,2qf4 9hw kdo 9hx,2qf5 9hw fex 9hx,2qf6 9hw fik 9hx",
     "2qf7 9hw i2x 9hx,2qf8 9hw m9l 9hx,2qf9 9hw jf7 9hx,2qfa 9hw nh3 9hx,2qfb 9hw gd9 9hx",
     "2qfc 9hw k0n 9hx"]

/-- The characters that are read as nothing. -/
def ignoredTable : List String :=
  ["4t 1 ip 1 2rz 2 18z 2 2d 5 1kr 1 2c 5 5 6 3ck 1 14ez g 6n 1 4g 1 11bz 4 43z 8 h479 6o"]

/-- The assigned characters that a domain name must not hold. -/
def refusedTable : List String :=
  ["3k x 127 6 m 1 5c 1 1d 1 ao 7 23 1 2ot 1 1vx 2 k 3 1 8 1i 1m rs 2r 26d h dq 1 cy 1q 13wy",
     "e g l d x au 7 3b1 1 f 3 6zk g 11a8 b gxrq"]

/-- A run of characters with images. -/
structure MappedRun where
  first : Nat
  last : Nat
  step : Nat
  image : Nat

namespace MappedRun

/-- Whether the run has the code point. -/
def covers (r : MappedRun) (n : Nat) : Bool :=
  decide (r.first ≤ n) && decide (n ≤ r.last) && (n - r.first) % r.step == 0

/-- The runs of a table. -/
def ofTable (lines : List String) : List MappedRun :=
  (tableEntries lines).filterMap fun entry =>
    match entry with
    | [first, last, step, image] => some ⟨first, last, step, image⟩
    | _ => none

end MappedRun

/-- The runs whose images advance. -/
def parallelRuns : List MappedRun := MappedRun.ofTable parallelTable

/-- The runs with one image. -/
def constantRuns : List MappedRun := MappedRun.ofTable constantTable

/-- The characters with longer images. -/
def longImages : List (List Nat) := tableEntries longTable

/-- The boundaries of the characters that are read as nothing. -/
def ignoredBoundaries : List Nat := decodeBoundaries ignoredTable

/-- The boundaries of the refused characters. -/
def refusedBoundaries : List Nat := decodeBoundaries refusedTable

/-- What a code point is read as, unless it stands for itself. -/
def image? (n : Nat) : Option (List Nat) :=
  if n < 0x80 then if 0x41 ≤ n ∧ n ≤ 0x5A then some [n + 0x20] else none
  else if InversionList.contains ignoredBoundaries n then some []
  else
    match parallelRuns.find? (·.covers n) with
    | some r => some [r.image + (n - r.first)]
    | none =>
      match constantRuns.find? (·.covers n) with
      | some r => some [r.image]
      | none => (longImages.find? fun entry => entry.head? == some n).map List.tail

/-- What a code point is read as. -/
def image (n : Nat) : List Nat := (image? n).getD [n]

/-- Whether a domain name may hold a code point. -/
def isAdmitted (n : Nat) : Bool :=
  (image? n).isNone && !InversionList.contains refusedBoundaries n &&
    !InversionList.contains unassignedBoundaries n &&
    !(decide (0xD800 ≤ n) && decide (n < 0xF900)) && decide (n < 0xF0000)

end Automation.Web
